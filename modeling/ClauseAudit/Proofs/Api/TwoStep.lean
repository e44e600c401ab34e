import ClauseAudit.Api.Service
import ClauseAudit.Proofs.Assessment.Simulation
import ClauseAudit.Proofs.Json.RoundTrip
import ClauseAudit.Proofs.Language.RoundTrip

/-!
# Simulation in one step and in two

A contract can be assessed with a policy text, or with a policy that was compiled before and went
to the client and back as JSON. Both ways give the same assessment.
-/

namespace ClauseAudit

namespace Language

private theorem State.finish_eq_map (s : State) (lastLine : Nat) (now now' : String) :
    s.finish lastLine now' =
      (s.finish lastLine now).map fun p => { p with compiledAt := now' } := by
  unfold finish
  cases s.draft with
  | some draft => rfl
  | none => cases s.rules <;> rfl

/-- The time of compilation is a stamp on the policy and nothing more. -/
theorem compile_eq_map (text now now' : String) :
    compile text now' = (compile text now).map fun p => { p with compiledAt := now' } := by
  unfold compile
  dsimp only
  cases State.run {} 1 (Text.lines text) with
  | error failure => rfl
  | ok s => exact s.finish_eq_map _ now now'

private theorem exists_compile_at {text now : String} {p : Policy} (h : compile text now = .ok p)
    (now' : String) : ∃ q, compile text now' = .ok q ∧ p.rules = q.rules := by
  rw [compile_eq_map text now, h]
  exact ⟨_, rfl, rfl⟩

private theorem rules_of_compile {text now now' : String} {p q : Policy}
    (hp : compile text now = .ok p) (hq : compile text now' = .ok q) : p.rules = q.rules := by
  obtain ⟨q', hq', hrules⟩ := exists_compile_at hp now'
  rw [hrules, Except.ok.inj (hq'.symm.trans hq)]

private theorem compile_eq_error {text now : String} {failure : Failure}
    (h : compile text now = .error failure) (now' : String) :
    compile text now' = .error failure := by
  rw [compile_eq_map text now, h]
  rfl

end Language

namespace Api

def Request.posting (style : Json.Style) (path : String) (fields : Json.Fields) : Request :=
  { method := "POST", path
    body := some ⟨(Json.Value.obj fields).text style, "application/json"⟩ }

structure Fits (text : String) (most : Int) : Prop where
  ne : text ≠ ""
  length_le : text.length ≤ most

/-- A value that is read from a body as it was sent. -/
structure Carried (v : Json.Value) : Prop where
  plain : v.Plain
  short : v.Short (some Text.maxIntegerDigits)

private theorem carried_str (s : String) : Carried (.str s) := ⟨.str s, .str s⟩

private theorem carried_obj {fields : Json.Fields} (hnames : (fields.map (·.1)).Nodup)
    (h : ∀ f ∈ fields, Carried f.2) : Carried (.obj fields) :=
  ⟨.obj hnames fun f hf => (h f hf).plain, .obj fun f hf => (h f hf).short⟩

private theorem fieldsOf_posting {style : Json.Style} (hstyle : style.Lawful) {fields : Json.Fields}
    (h : Carried (.obj fields)) (path : String) :
    fieldsOf (Request.posting style path fields).body = .ok fields := by
  obtain ⟨more, hmore⟩ : ∃ more,
      ((Json.Value.obj fields).text style).toList = '\x7b' :: more := by
    cases fields with
    | nil => exact ⟨_, by rw [Json.Value.text, Json.Style.print]; rfl⟩
    | cons f fields => exact ⟨_, style.toList_print_obj 0 f.1 f.2 fields⟩
  have hne : ((Json.Value.obj fields).text style).isEmpty = false := by
    rw [Bool.eq_false_iff, ne_eq, String.isEmpty_iff]
    intro hempty
    rw [hempty] at hmore
    cases hmore
  have hmark : dropMark ((Json.Value.obj fields).text style) =
      (Json.Value.obj fields).text style := by
    rw [dropMark, hmore]
    rfl
  have hvalue : Body.value ⟨(Json.Value.obj fields).text style, "application/json"⟩ =
      .ok (.obj fields) := by
    have htype : isJsonType "application/json" = true := rfl
    rw [Body.value, htype, hmark, Json.readWithin_text hstyle h.plain h.short]
    rfl
  rw [Request.posting, fieldsOf, hne, hvalue]
  rfl

private theorem textField_of_fits {fields : Json.Fields} {name text : String} {most : Int}
    (h : fields.lookup name = some (.str text)) (hfits : Fits text most) :
    textField fields name most = .ok text := by
  have hne : text.isEmpty = false := by simpa using hfits.ne
  rw [textField, h]
  have hlength : ¬most < text.length := by
    have hle := hfits.length_le
    omega
  simp only [hne, hlength, if_false, Bool.false_eq_true]

private theorem textField_of_not_fits {fields : Json.Fields} {name text : String} {most : Int}
    (h : fields.lookup name = some (.str text)) (hfits : ¬Fits text most) :
    ∃ refusal, textField fields name most = .error refusal := by
  rw [textField, h]
  dsimp only
  split
  · exact ⟨_, rfl⟩
  · next hne =>
    split
    · exact ⟨_, rfl⟩
    · next hlength =>
      exact absurd ⟨by simpa using hne, by omega⟩ hfits

namespace Service

private theorem serve_post {path : String} {handle : Service → String → Option Body → Reply}
    (hpath : servedPath (barePath path) = path)
    (hroute : routes.lookup path = some ("POST", handle)) (s : Service) (style : Json.Style)
    (fields : Json.Fields) : s.serve (.posting style path fields) =
      handle s path (Request.posting style path fields).body := by
  unfold serve Request.posting
  dsimp only
  rw [hpath, hroute]
  rfl

def Answers (s : Service) (r : Request) (status : Nat) (body : Json.Value) : Prop :=
  (s.serve r).response = .ok ⟨status, body⟩

end Service

def compileRequest (style : Json.Style) (dsl : String) : Request :=
  .posting style "/compile" [("dsl", .str dsl)]

def simulateRequest (style : Json.Style) (dsl contract : String) : Request :=
  .posting style "/simulate" [("dsl", .str dsl), ("contractText", .str contract)]

def simulateCompiledRequest (style : Json.Style) (wire : Json.Value) (contract : String) :
    Request :=
  .posting style "/simulate/compiled" [("compiledPolicy", wire), ("contractText", .str contract)]

private theorem Taken.exists_both_error {α β : Type} {x : Taken α} {y : Taken β}
    (h : (∃ refusal, x = .error refusal) ∨ ∃ refusal, y = .error refusal) :
    ∃ refusal, Taken.both x y = .error refusal := by
  rcases h with ⟨refusal, rfl⟩ | ⟨refusal, rfl⟩
  · rcases refusal with _ | a <;> rcases y with (_ | b) | y <;> exact ⟨_, rfl⟩
  · rcases refusal with _ | b <;> rcases x with (_ | a) | x <;> exact ⟨_, rfl⟩

namespace Service

variable {style : Json.Style} {s : Service} {dsl contract : String} {body : Json.Value}

private theorem answer_of_invalid {path : String} {refusal : Refusal} {status : Nat}
    (h : (s.invalid path refusal).response = .ok ⟨status, body⟩) :
    status = 400 ∧ body.get? "error" ≠ some (.str "DSL_COMPILE_ERROR") := by
  cases refusal with
  | unparsable =>
    cases h
    exact ⟨rfl, nofun⟩
  | issues details =>
    unfold invalid at h
    dsimp only at h
    split at h
    · cases h
      exact ⟨rfl, by simp [Json.Value.get?]⟩
    · cases h

private theorem invalid_ne_ok (path : String) (refusal : Refusal) :
    (s.invalid path refusal).response ≠ .ok ⟨200, body⟩ := by
  intro h
  cases (answer_of_invalid h).1

private theorem withPolicy_eq_ok_iff {message code : String} {use : Policy → Reply} :
    (s.withPolicy dsl message code use).response = .ok ⟨200, body⟩ ↔
      ∃ p, Language.compile dsl (Time.universalText s.now) = .ok p ∧
        (use p).response = .ok ⟨200, body⟩ := by
  unfold withPolicy
  cases Language.compile dsl (Time.universalText s.now) with
  | ok p => simp
  | error failure => cases failure <;> simp [refuse, crash]

private theorem withPolicy_of_diagnostic {message code : String} {use : Policy → Reply}
    {d : Language.Diagnostic}
    (h : Language.compile dsl (Time.universalText s.now) = .error (.diagnostic d)) :
    (s.withPolicy dsl message code use).response =
      .ok ⟨400, .obj [("error", .str code), ("message", .str d.message)]⟩ := by
  rw [withPolicy, h]
  rfl

/-! ## What the routes do with the requests -/

private theorem serve_compileRequest (hstyle : style.Lawful)
    (hdsl : Fits dsl s.settings.api.maxDslChars) : s.serve (compileRequest style dsl) =
      s.withPolicy dsl "dsl compile failed" "DSL_COMPILE_ERROR" fun p =>
        ok (.obj [("compiledPolicy", p.toJson)]) := by
  have hcarried : Carried (.obj [("dsl", .str dsl)]) :=
    carried_obj (by simp) (by simp [carried_str])
  rw [compileRequest, @serve_post "/compile" compile rfl rfl, compile,
    fieldsOf_posting hstyle hcarried]
  simp only [bind, Except.bind]
  rw [textField_of_fits rfl hdsl]

private theorem serve_compileRequest_invalid (hstyle : style.Lawful)
    (hdsl : ¬Fits dsl s.settings.api.maxDslChars) :
    ∃ refusal, s.serve (compileRequest style dsl) = s.invalid "/compile" refusal := by
  have hcarried : Carried (.obj [("dsl", .str dsl)]) :=
    carried_obj (by simp) (by simp [carried_str])
  obtain ⟨refusal, htext⟩ := @textField_of_not_fits [("dsl", .str dsl)] "dsl" _ _ rfl hdsl
  refine ⟨refusal, ?_⟩
  rw [compileRequest, @serve_post "/compile" compile rfl rfl, compile,
    fieldsOf_posting hstyle hcarried]
  simp only [bind, Except.bind, htext]

private theorem serve_simulateRequest (hstyle : style.Lawful)
    (hdsl : Fits dsl s.settings.api.maxDslChars)
    (hcontract : Fits contract s.settings.api.maxContractChars) :
    ∃ use, s.serve (simulateRequest style dsl contract) =
        s.withPolicy dsl "simulation compile failed" "SIMULATION_ERROR" use ∧
      ∀ p body, (use p).response = .ok ⟨200, body⟩ ↔ ∃ result, p.simulate contract = .ok result ∧
        body = .obj [("compiledPolicy", p.toJson), ("simulation", result.toJson)] := by
  have hcarried : Carried (.obj [("dsl", .str dsl), ("contractText", .str contract)]) :=
    carried_obj (by simp) (by simp [carried_str])
  rw [simulateRequest, @serve_post "/simulate" simulate rfl rfl, simulate,
    fieldsOf_posting hstyle hcarried]
  simp only [bind, Except.bind]
  rw [textField_of_fits rfl hdsl, textField_of_fits rfl hcontract, Taken.both]
  refine ⟨_, rfl, ?_⟩
  intro p body
  cases p.simulate contract with
  | error fault => simp [crash]
  | ok result => simp [eq_comm]

private theorem serve_simulateRequest_invalid (hstyle : style.Lawful)
    (hfits : ¬(Fits dsl s.settings.api.maxDslChars ∧
      Fits contract s.settings.api.maxContractChars)) :
    ∃ refusal, s.serve (simulateRequest style dsl contract) = s.invalid "/simulate" refusal := by
  have hcarried : Carried (.obj [("dsl", .str dsl), ("contractText", .str contract)]) :=
    carried_obj (by simp) (by simp [carried_str])
  obtain ⟨refusal, hboth⟩ : ∃ refusal, Taken.both
      (textField [("dsl", .str dsl), ("contractText", .str contract)] "dsl"
        s.settings.api.maxDslChars)
      (textField [("dsl", .str dsl), ("contractText", .str contract)] "contractText"
        s.settings.api.maxContractChars) = .error refusal := by
    apply Taken.exists_both_error
    rcases not_and_or.mp hfits with hdsl | hcontract
    · exact .inl (textField_of_not_fits rfl hdsl)
    · exact .inr (textField_of_not_fits rfl hcontract)
  refine ⟨refusal, ?_⟩
  rw [simulateRequest, @serve_post "/simulate" simulate rfl rfl, simulate,
    fieldsOf_posting hstyle hcarried]
  simp only [bind, Except.bind, hboth]

/-! ## Answers -/

private theorem answers_compile_iff (hstyle : style.Lawful) :
    s.Answers (compileRequest style dsl) 200 body ↔ Fits dsl s.settings.api.maxDslChars ∧
      ∃ p, Language.compile dsl (Time.universalText s.now) = .ok p ∧
        body = .obj [("compiledPolicy", p.toJson)] := by
  by_cases hdsl : Fits dsl s.settings.api.maxDslChars
  · rw [Answers, serve_compileRequest hstyle hdsl, withPolicy_eq_ok_iff]
    simp [hdsl, ok, eq_comm]
  · obtain ⟨refusal, hserve⟩ := serve_compileRequest_invalid hstyle hdsl
    rw [Answers, hserve]
    simp [hdsl, invalid_ne_ok]

private theorem answers_simulate_iff (hstyle : style.Lawful) :
    s.Answers (simulateRequest style dsl contract) 200 body ↔
      (Fits dsl s.settings.api.maxDslChars ∧ Fits contract s.settings.api.maxContractChars) ∧
        ∃ p result, Language.compile dsl (Time.universalText s.now) = .ok p ∧
          p.simulate contract = .ok result ∧
          body = .obj [("compiledPolicy", p.toJson), ("simulation", result.toJson)] := by
  by_cases hfits : Fits dsl s.settings.api.maxDslChars ∧
      Fits contract s.settings.api.maxContractChars
  · obtain ⟨use, hserve, huse⟩ := serve_simulateRequest hstyle hfits.1 hfits.2
    rw [Answers, hserve, withPolicy_eq_ok_iff]
    simp [hfits, huse]
  · obtain ⟨refusal, hserve⟩ := serve_simulateRequest_invalid hstyle hfits
    rw [Answers, hserve]
    simp [hfits, invalid_ne_ok]

private theorem answers_simulateCompiled_iff (hstyle : style.Lawful) {fields : Json.Fields}
    (hwire : Carried (.obj fields)) :
    s.Answers (simulateCompiledRequest style (.obj fields) contract) 200 body ↔
      Fits contract s.settings.api.maxContractChars ∧
        ∃ p result, Policy.ofJson (.obj fields) = .ok p ∧ p.simulate contract = .ok result ∧
          body = .obj [("simulation", result.toJson)] := by
  have hcarried : Carried (.obj [("compiledPolicy", .obj fields),
      ("contractText", .str contract)]) :=
    carried_obj (by simp) (by simp [hwire, carried_str])
  have hobject : objectField [("compiledPolicy", .obj fields), ("contractText", .str contract)]
      "compiledPolicy" = .ok (.obj fields) := rfl
  rw [Answers, simulateCompiledRequest, @serve_post "/simulate/compiled" simulateCompiled rfl rfl,
    simulateCompiled, fieldsOf_posting hstyle hcarried]
  simp only [bind, Except.bind, hobject]
  by_cases hcontract : Fits contract s.settings.api.maxContractChars
  · rw [textField_of_fits rfl hcontract, Taken.both]
    dsimp only
    cases Policy.ofJson (.obj fields) with
    | error fault => cases hover : fault.overflow? <;> simp [hover, refuse, crash]
    | ok p =>
      cases hresult : p.simulate contract with
      | error fault => simp [hresult, crash]
      | ok result => simp [hresult, hcontract, ok, eq_comm]
  · obtain ⟨refusal, herror⟩ := @Taken.exists_both_error _ _ (.ok (Json.Value.obj fields))
      (textField [("compiledPolicy", .obj fields), ("contractText", .str contract)]
        "contractText" s.settings.api.maxContractChars)
      (.inr (textField_of_not_fits rfl hcontract))
    rw [herror]
    simp [hcontract, invalid_ne_ok]

private theorem answers_simulate_of_diagnostic (hstyle : style.Lawful)
    (hdsl : Fits dsl s.settings.api.maxDslChars)
    (hcontract : Fits contract s.settings.api.maxContractChars) {d : Language.Diagnostic}
    (h : Language.compile dsl (Time.universalText s.now) = .error (.diagnostic d)) :
    s.Answers (simulateRequest style dsl contract) 400
      (.obj [("error", .str "SIMULATION_ERROR"), ("message", .str d.message)]) := by
  obtain ⟨use, hserve, _⟩ := serve_simulateRequest hstyle hdsl hcontract
  rw [Answers, hserve]
  exact withPolicy_of_diagnostic h

/-- The code of a diagnostic is used for nothing else. -/
theorem diagnostic_of_answers_compile (hstyle : style.Lawful)
    (h : s.Answers (compileRequest style dsl) 400 body)
    (hcode : body.get? "error" = some (.str "DSL_COMPILE_ERROR")) :
    Fits dsl s.settings.api.maxDslChars ∧ ∃ d : Language.Diagnostic,
      Language.compile dsl (Time.universalText s.now) = .error (.diagnostic d) ∧
        body.get? "message" = some (.str d.message) := by
  by_cases hdsl : Fits dsl s.settings.api.maxDslChars
  · rw [Answers, serve_compileRequest hstyle hdsl] at h
    refine ⟨hdsl, ?_⟩
    cases hcompile : Language.compile dsl (Time.universalText s.now) with
    | ok p =>
      rw [withPolicy, hcompile] at h
      cases h
    | error failure =>
      cases failure with
      | overflow fault =>
        rw [withPolicy, hcompile] at h
        cases h
      | diagnostic d =>
        rw [withPolicy_of_diagnostic hcompile] at h
        cases h
        exact ⟨d, rfl, rfl⟩
  · obtain ⟨refusal, hserve⟩ := serve_compileRequest_invalid hstyle hdsl
    rw [Answers, hserve] at h
    exact absurd hcode (answer_of_invalid h).2

/-! ## Two steps -/

def atInstant (s : Service) (now : Int) : Service := { s with now }

/-- A policy text is compiled, the answer goes to the client as JSON, and its policy is sent back
with the contract. The last answer is a success with the given body. -/
def AnswersInTwo (s : Service) (sent answered : Json.Style) (now later : Int)
    (dsl contract : String) (body : Json.Value) : Prop :=
  ∃ compiled received wire, (s.atInstant now).Answers (compileRequest sent dsl) 200 compiled ∧
    Json.read (compiled.text answered) = .ok received ∧
    received.get? "compiledPolicy" = some wire ∧
    (s.atInstant later).Answers (simulateCompiledRequest sent wire contract) 200 body

private theorem answersInTwo_iff {sent answered : Json.Style} (hsent : sent.Lawful)
    (hanswered : answered.Lawful) {now later : Int} :
    s.AnswersInTwo sent answered now later dsl contract body ↔
      (Fits dsl s.settings.api.maxDslChars ∧ Fits contract s.settings.api.maxContractChars) ∧
        ∃ p result, Language.compile dsl (Time.universalText now) = .ok p ∧
          p.simulate contract = .ok result ∧ body = .obj [("simulation", result.toJson)] := by
  have hback (p : Policy) :
      Json.read ((Json.Value.obj [("compiledPolicy", p.toJson)]).text answered) =
        .ok (.obj [("compiledPolicy", p.toJson)]) := by
    apply Json.read_text hanswered
    exact .obj (by simp) (by simp [p.plain_toJson])
  -- The policy comes back with another name at most, and names play no part in an assessment.
  have hload {p : Policy} (hp : Language.compile dsl (Time.universalText now) = .ok p) :
      (s.atInstant later).Answers (simulateCompiledRequest sent p.toJson contract) 200 body ↔
        Fits contract s.settings.api.maxContractChars ∧ ∃ result,
          p.simulate contract = .ok result ∧ body = .obj [("simulation", result.toJson)] := by
    obtain ⟨fields, hfields⟩ : ∃ fields, p.toJson = .obj fields := ⟨_, rfl⟩
    have hloaded := Policy.ofJson_toJson (Language.rules_ne_nil_of_compile hp)
      (Language.sound_of_compile hp)
    have hcarried : Carried p.toJson := ⟨p.plain_toJson, p.short_toJson _⟩
    rw [hfields] at hloaded hcarried ⊢
    rw [answers_simulateCompiled_iff hsent hcarried, hloaded]
    constructor
    · rintro ⟨hcontract, q, result, hq, hresult, hbody⟩
      obtain rfl := Except.ok.inj hq
      exact ⟨hcontract, result, hresult, hbody⟩
    · rintro ⟨hcontract, result, hresult, hbody⟩
      exact ⟨hcontract, _, result, rfl, hresult, hbody⟩
  constructor
  · rintro ⟨compiled, received, wire, hcompiled, hreceived, hwire, hanswer⟩
    obtain ⟨hdsl, p, hp, rfl⟩ := (answers_compile_iff hsent).mp hcompiled
    rw [hback p] at hreceived
    cases hreceived
    cases hwire
    obtain ⟨hcontract, result, hresult, hbody⟩ := (hload hp).mp hanswer
    exact ⟨⟨hdsl, hcontract⟩, p, result, hp, hresult, hbody⟩
  · rintro ⟨⟨hdsl, hcontract⟩, p, result, hp, hresult, hbody⟩
    exact ⟨_, _, p.toJson, (answers_compile_iff hsent).mpr ⟨hdsl, p, hp, rfl⟩, hback p, rfl,
      (hload hp).mpr ⟨hcontract, result, hresult, hbody⟩⟩

/-- One step and two steps come to the same for a policy text and a contract, whatever the
instants of the three requests are. -/
structure StepsAgree (s : Service) (sent answered : Json.Style) (instant now later : Int)
    (dsl contract : String) : Prop where
  succeed : (∃ body, (s.atInstant instant).Answers (simulateRequest sent dsl contract) 200 body) ↔
    ∃ body, s.AnswersInTwo sent answered now later dsl contract body
  /-- The assessments are the same. -/
  simulation : ∀ one two,
    (s.atInstant instant).Answers (simulateRequest sent dsl contract) 200 one →
    s.AnswersInTwo sent answered now later dsl contract two →
      ∃ simulation, one.get? "simulation" = some simulation ∧
        two.get? "simulation" = some simulation
  /-- A text that does not compile is refused with the same message. -/
  refuse : ∀ refused, (s.atInstant now).Answers (compileRequest sent dsl) 400 refused →
    refused.get? "error" = some (.str "DSL_COMPILE_ERROR") →
    Fits contract s.settings.api.maxContractChars →
      ∃ message body, refused.get? "message" = some (.str message) ∧
        (s.atInstant instant).Answers (simulateRequest sent dsl contract) 400 body ∧
        body.get? "error" = some (.str "SIMULATION_ERROR") ∧
        body.get? "message" = some (.str message)

/-- A contract can be assessed with a policy text in one step exactly when it can be in two, with
the same assessment. -/
theorem one_step_agrees_with_two {sent answered : Json.Style} (hsent : sent.Lawful)
    (hanswered : answered.Lawful) (s : Service) (instant now later : Int)
    (dsl contract : String) : s.StepsAgree sent answered instant now later dsl contract := by
  refine ⟨?_, ?_, ?_⟩
  · constructor
    · rintro ⟨body, hbody⟩
      obtain ⟨hfits, p, result, hp, hresult, _⟩ := (answers_simulate_iff hsent).mp hbody
      obtain ⟨q, hq, hrules⟩ := Language.exists_compile_at hp (Time.universalText now)
      rw [Policy.simulate_congr hrules contract] at hresult
      exact ⟨_, (answersInTwo_iff hsent hanswered).mpr ⟨hfits, q, result, hq, hresult, rfl⟩⟩
    · rintro ⟨body, hbody⟩
      obtain ⟨hfits, p, result, hp, hresult, _⟩ := (answersInTwo_iff hsent hanswered).mp hbody
      obtain ⟨q, hq, hrules⟩ := Language.exists_compile_at hp
        (Time.universalText (s.atInstant instant).now)
      rw [Policy.simulate_congr hrules contract] at hresult
      exact ⟨_, (answers_simulate_iff hsent).mpr ⟨hfits, q, result, hq, hresult, rfl⟩⟩
  · intro one two hone htwo
    obtain ⟨_, p, result, hp, hresult, rfl⟩ := (answers_simulate_iff hsent).mp hone
    obtain ⟨_, q, result', hq, hresult', rfl⟩ := (answersInTwo_iff hsent hanswered).mp htwo
    have hrules := Language.rules_of_compile hp hq
    rw [Policy.simulate_congr hrules contract, hresult'] at hresult
    obtain rfl := Except.ok.inj hresult
    exact ⟨result'.toJson, rfl, rfl⟩
  · intro refused hrefused hcode hcontract
    obtain ⟨hdsl, d, hd, hmessage⟩ := diagnostic_of_answers_compile hsent hrefused hcode
    have hinstant := Language.compile_eq_error hd (Time.universalText (s.atInstant instant).now)
    have hanswer := answers_simulate_of_diagnostic (s := s.atInstant instant) hsent hdsl hcontract
      hinstant
    exact ⟨d.message, _, hmessage, hanswer, rfl, rfl⟩

/-- A service with all settings as they are by default, and nothing to log to. -/
def plainService : Service := { settings := {}, registry := {}, now := 0 }

/-- A policy whose empty name does not come back from the client is assessed all the same. -/
theorem unnamedText_steps_agree : Json.Style.spaced.Lawful ∧ Json.Style.compact.Lawful ∧
    (∃ body, plainService.AnswersInTwo .spaced .compact 1 2 Language.unnamedText "Fees." body) ∧
    plainService.StepsAgree .spaced .compact 0 1 2 Language.unnamedText "Fees." := by
  have hspaced : Json.Style.spaced.Lawful :=
    ⟨⟨[' '], rfl, by simp [Json.Blank, Json.Cursor.isSpace]⟩,
      ⟨[' '], rfl, by simp [Json.Blank, Json.Cursor.isSpace]⟩⟩
  have hcompact : Json.Style.compact.Lawful := ⟨⟨[], rfl, .nil⟩, ⟨[], rfl, .nil⟩⟩
  obtain ⟨p, hp, _⟩ := Language.exists_compile_at Language.compile_unnamedText
    (Time.universalText 1)
  obtain ⟨result, hresult⟩ := Policy.exists_simulate_eq_ok (Language.sound_of_compile hp) "Fees."
  have hfits : Fits Language.unnamedText plainService.settings.api.maxDslChars ∧
      Fits "Fees." plainService.settings.api.maxContractChars :=
    ⟨⟨by decide, by decide⟩, ⟨by decide, by decide⟩⟩
  exact ⟨hspaced, hcompact, ⟨_, (answersInTwo_iff hspaced hcompact).mpr
      ⟨hfits, p, result, hp, hresult, rfl⟩⟩,
    one_step_agrees_with_two hspaced hcompact plainService 0 1 2 Language.unnamedText "Fees."⟩

end Service

end Api

end ClauseAudit
