import ClauseAudit.Naming.Slug
import ClauseAudit.Proofs.Text.LowerCase

/-!
# Spelling in lower case ASCII

Most stages of the spelling change only characters of their own kind: decomposition and romanization
those beyond ASCII, references those with an ampersand. Text without any of them is spelled as it is.
-/

namespace ClauseAudit.Text

end ClauseAudit.Text

namespace ClauseAudit.Naming

namespace ReferenceReader

end ReferenceReader

end ClauseAudit.Naming
