import ClauseAudit.Batch.Envelope
import ClauseAudit.Proofs.Json.RoundTrip
import ClauseAudit.Proofs.Language.RoundTrip
import ClauseAudit.Proofs.Text.Utf8
import ClauseAudit.Rule.Wire

/-!
# Stored policies

The file of a compiled policy can be read back and checked. Its bytes are read as the envelope that
was written, the policy in it is loaded with the rules that were compiled, and the fingerprint in
it is that of the policy in every form: as it was compiled, as it stands in the file, and as it is
loaded from there.
-/

namespace ClauseAudit.Batch

open Json.Value

private theorem lawful_indented (width : Nat) : (Json.Style.indented width).Lawful where
  item := ⟨[], by simp [Json.Style.indented], .nil⟩
  name := ⟨[' '], by simp [Json.Style.indented], by simp [Json.Blank, Json.Cursor.isSpace]⟩

theorem Outcome.plain_toJson (o : Outcome) : o.toJson.Plain := by
  cases o with
  | compiled p => exact .obj (by simp) (by simp [Plain.str, p.plain_toJson])
  | rejected d => exact .obj (by simp) (by simp [Plain.str])

namespace Envelope

theorem plain_toJson (e : Envelope) : e.toJson.Plain :=
  .obj (by simp) (by simp [Plain.str, Plain.bool, e.outcome.plain_toJson])

private theorem read_text (e : Envelope) : Json.read e.text = .ok e.toJson :=
  Json.read_text (lawful_indented 2) e.plain_toJson

private theorem readUtf8_bytes (e : Envelope) : Text.readUtf8 e.bytes = .ok e.text :=
  Text.readUtf8_toUTF8 e.text

end Envelope

/-- A document holds a policy with the rules of the given one, and the fingerprint in it is that of
the given policy, of the policy in the document, and of the policy that is loaded from it. -/
def Certifies (document : Json.Value) (p : Policy) : Prop :=
  ∃ payload wire loaded stored, document.get? "payload" = some payload ∧
    payload.get? "compiledPolicy" = some wire ∧ payload.get? "fingerprint" = some (.str stored) ∧
    Policy.ofJson wire = .ok loaded ∧ loaded.rules = p.rules ∧ p.fingerprint = stored ∧
    loaded.fingerprint = stored ∧ fingerprintOfJson wire fingerprintLength = .ok stored

private theorem certifies_of_compile {text now : String} {p : Policy}
    (h : Language.compile text now = .ok p) {e : Envelope} (he : e.outcome = .compiled p) :
    Certifies e.toJson p := by
  have hload := Policy.ofJson_toJson (Language.rules_ne_nil_of_compile h)
    (Language.sound_of_compile h)
  have hpayload : e.toJson.get? "payload" = some (Outcome.compiled p).toJson :=
    congrArg (fun o : Outcome => some o.toJson) he
  exact ⟨_, p.toJson, _, p.fingerprint, hpayload, rfl, rfl, hload, rfl, rfl, rfl, rfl⟩

/-- A stored policy is read back as it was written and bears out its own fingerprint, whenever the
envelope was stamped. -/
theorem stored_policy_certifies {text now : String} {p : Policy}
    (h : Language.compile text now = .ok p) (sourceFile : String) :
    ∃ e, Envelope.ofText sourceFile text now = .ok e ∧ ∀ stamp : String,
      let stamped := { e with compiledAt := stamp }
      Text.readUtf8 stamped.bytes = .ok stamped.text ∧
        Json.read stamped.text = .ok stamped.toJson ∧ Certifies stamped.toJson p := by
  have hofText : Envelope.ofText sourceFile text now = .ok ⟨sourceFile, now, .compiled p⟩ := by
    rw [Envelope.ofText, h]
  refine ⟨_, hofText, ?_⟩
  intro stamp
  exact ⟨Envelope.readUtf8_bytes _, Envelope.read_text _, certifies_of_compile h rfl⟩

/-- Not even a policy whose name is lost in loading loses its fingerprint. -/
theorem unnamed_policy_certifies :
    Language.compile Language.unnamedText "" = .ok Language.unnamedPolicy ∧
      ∃ e, Envelope.ofText "unnamed" Language.unnamedText "" = .ok e ∧ ∀ stamp : String,
        let stamped := { e with compiledAt := stamp }
        Text.readUtf8 stamped.bytes = .ok stamped.text ∧
          Json.read stamped.text = .ok stamped.toJson ∧
          Certifies stamped.toJson Language.unnamedPolicy :=
  ⟨Language.compile_unnamedText,
    stored_policy_certifies Language.compile_unnamedText "unnamed"⟩

end ClauseAudit.Batch
