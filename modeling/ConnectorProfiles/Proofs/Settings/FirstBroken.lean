import ConnectorProfiles.Proofs.Document.Read
import ConnectorProfiles.Proofs.Messages
import ConnectorProfiles.Proofs.NameMap.ByteOrder
import ConnectorProfiles.Proofs.NameMap.LastWins

/-!
# The first broken rule

The rules on a configuration as a list, in the order in which they count, each with the words in
which it is reported. A check reports such a list when it passes exactly if no rule is broken, and
otherwise names the first broken one. Checks one after the other report their lists one after the
other, so the check of a configuration reports all its rules.
-/

namespace ConnectorProfiles

/-- A rule: when it is broken, what is then reported, and in which words. -/
structure Rule where
  Broken : Prop
  violation : Violation
  words : String

namespace Rule

/-- The rule that a text is not blank; it is where every character is white space. -/
def notBlank (text : String) (violation : Violation) (words : String) : Rule :=
  ⟨∀ c ∈ text.toList, Text.isSpace c = true, violation, words⟩

/-- Of the rules this one is the first that is broken. -/
def FirstBroken (rules : List Rule) (rule : Rule) : Prop :=
  ∃ before after, rules = before ++ rule :: after ∧ (∀ other ∈ before, ¬ other.Broken) ∧
    rule.Broken

/-- The outcome of a check is that of the rules: it passes when none is broken, and it reports the
first one that is. -/
structure Decide {ε : Type} (report : Rule → ε) (rules : List Rule) (outcome : Except ε Unit) :
    Prop where
  ok_iff : outcome = .ok () ↔ ∀ rule ∈ rules, ¬ rule.Broken
  error_iff : ∀ reported, outcome = .error reported ↔
    ∃ rule, FirstBroken rules rule ∧ report rule = reported

/-! ### Lists of rules -/

section Lists

variable {rules others : List Rule} {rule : Rule}

/-- Without rules none is broken. -/
theorem not_firstBroken_nil : ¬ FirstBroken [] rule := by
  rintro ⟨before, after, h, -⟩
  simp at h

/-- A lone rule is the first broken one where it is broken. -/
theorem firstBroken_singleton_iff {found : Rule} :
    FirstBroken [rule] found ↔ found = rule ∧ rule.Broken := by
  constructor
  · rintro ⟨before, after, h, -, hbroken⟩
    obtain ⟨rfl, h⟩ | ⟨_, rfl, h⟩ := List.cons_eq_append_iff.mp h
    · obtain ⟨rfl, -⟩ := List.cons.inj h
      exact ⟨rfl, hbroken⟩
    · simp at h
  · rintro ⟨rfl, hbroken⟩
    exact ⟨[], [], rfl, List.forall_mem_nil _, hbroken⟩

/-- The first broken rule is among the earlier ones, or they are kept and it is the first broken one
of the later ones. -/
theorem firstBroken_append_iff : FirstBroken (rules ++ others) rule ↔
    FirstBroken rules rule ∨ (∀ kept ∈ rules, ¬ kept.Broken) ∧ FirstBroken others rule := by
  constructor
  · rintro ⟨before, after, h, hbefore, hbroken⟩
    obtain ⟨between, rfl, rfl⟩ | ⟨between, rfl, hrest⟩ := List.append_eq_append_iff.mp h
    · obtain ⟨hrules, hbetween⟩ := List.forall_mem_append.mp hbefore
      exact .inr ⟨hrules, between, after, rfl, hbetween, hbroken⟩
    · cases between with
      | nil =>
        rw [List.append_nil]
        exact .inr ⟨hbefore, [], after, hrest.symm, List.forall_mem_nil _, hbroken⟩
      | cons first between =>
        obtain ⟨rfl, rfl⟩ := List.cons.inj hrest
        exact .inl ⟨before, between, rfl, hbefore, hbroken⟩
  · rintro (⟨before, after, rfl, hbefore, hbroken⟩ |
      ⟨hrules, before, after, rfl, hbefore, hbroken⟩)
    · exact ⟨before, after ++ others, by simp, hbefore, hbroken⟩
    · exact ⟨rules ++ before, after, by simp, List.forall_mem_append.mpr ⟨hrules, hbefore⟩,
        hbroken⟩

/-- The first broken rule is one of the rules. -/
theorem FirstBroken.mem (h : FirstBroken rules rule) : rule ∈ rules := by
  obtain ⟨before, after, rfl, -⟩ := h
  simp

end Lists

/-! ### Checks -/

namespace Decide

section Reports

variable {ε : Type} {report : Rule → ε} {rules others : List Rule} {x y : Except ε Unit}

/-- Nothing is checked where there is no rule. -/
theorem nil : Decide report [] (.ok ()) where
  ok_iff := by simp
  error_iff reported := by simp [not_firstBroken_nil]

/-- A check after another decides the later rules. -/
theorem bind (hx : Decide report rules x) (hy : Decide report others y) :
    Decide report (rules ++ others) (x >>= fun _ ↦ y) where
  ok_iff := by
    rw [check_bind_eq_ok_iff, hx.ok_iff, hy.ok_iff, List.forall_mem_append]
  error_iff reported := by
    simp only [firstBroken_append_iff, or_and_right, exists_or, and_assoc, exists_and_left,
      ← hx.error_iff, ← hx.ok_iff, ← hy.error_iff]
    cases x with
    | error other => simp [Bind.bind, Except.bind]
    | ok passed => simp [Bind.bind, Except.bind]

/-- A check of every element decides the rules on one element after the other. -/
theorem forM {α : Type} {rules : α → List Rule} {check : α → Except ε Unit}
    (h : ∀ a, Decide report (rules a) (check a)) (as : List α) :
    Decide report (as.flatMap rules) (as.forM check) := by
  induction as with
  | nil => exact nil
  | cons a as ih =>
    rw [List.flatMap_cons]
    exact (h a).bind ih

/-- Refusing a broken rule decides it. -/
theorem of_broken (rule : Rule) {broken : Bool} (h : broken = true ↔ rule.Broken) :
    Decide report [rule] (if broken then .error (report rule) else .ok ()) where
  ok_iff := by
    rw [List.forall_mem_singleton, ← h]
    cases broken <;> simp
  error_iff reported := by
    simp only [firstBroken_singleton_iff, ← h]
    cases broken <;> simp

/-- A check decides the same rules when what it reports is put into words. -/
theorem mapError {ε' : Type} {f : ε → ε'} {worded : Rule → ε'} (h : Decide report rules x)
    (hworded : ∀ rule ∈ rules, f (report rule) = worded rule) :
    Decide worded rules (x.mapError f) where
  ok_iff := by rw [mapError_eq_ok_iff, h.ok_iff]
  error_iff text := by
    rw [mapError_eq_error_iff]
    constructor
    · rintro ⟨reported, hreported, rfl⟩
      obtain ⟨rule, hrule, rfl⟩ := (h.error_iff reported).mp hreported
      exact ⟨rule, hrule, (hworded rule hrule.mem).symm⟩
    · rintro ⟨rule, hrule, rfl⟩
      exact ⟨report rule, (h.error_iff _).mpr ⟨rule, hrule, rfl⟩, hworded rule hrule.mem⟩

end Reports

/-- Refusing a blank text decides the rule that it is not blank. -/
theorem refuseBlank (text : String) (violation : Violation) (words : String) :
    Decide Rule.violation [.notBlank text violation words] (refuseBlank text violation) :=
  of_broken (.notBlank text violation words) (by simp [Text.isBlank, notBlank])

end Decide

end Rule

open Rule (notBlank)

/-! ### The rules on a configuration -/

/-- The rules on the id under one protocol. -/
def participantRules (entry : String × String) : List Rule :=
  [notBlank entry.1 .blankProtocol "participant protocol names must not be blank",
    notBlank entry.2 (.blankParticipantId entry.1)
      ("participant id for protocol '" ++ entry.1 ++ "' must not be blank")]

/-- The rules on a profile of either tier. -/
def ProfileSettings.rules (p : ProfileSettings) : List Rule :=
  notBlank p.name .blankProfileName "profile name must not be blank" ::
    notBlank p.version (.blankProfileVersion p.name)
      ("profile '" ++ p.name ++ "' must declare a version") ::
    p.extractor.toList.map fun extractor ↦ notBlank extractor (.blankProfileExtractor p.name)
      ("profile '" ++ p.name ++ "' names a blank extractor")

/-- The rule on a profile of the default tier alone. -/
def ProfileSettings.defaultRule (p : ProfileSettings) : Rule :=
  ⟨p.extractor ≠ none, .extractorOnDefault p.name,
    "default profile '" ++ p.name ++ "' cannot name an extractor; declare it under profiles"⟩

/-- The rules on a configuration in the order in which they count. -/
def Config.rules (c : Config) : List Rule :=
  notBlank c.defaultExtractor .blankDefaultExtractor "default_extractor must not be blank" ::
    notBlank c.participant.defaultId .blankDefaultId "participant.default_id must not be blank" ::
      (c.participant.protocols.entries.flatMap participantRules ++
        (c.defaultProfiles ++ c.profiles).flatMap ProfileSettings.rules ++
        c.defaultProfiles.map ProfileSettings.defaultRule)

/-! ### What the check of a configuration reports -/

/-- The check of the id under a protocol decides its rules. -/
theorem decide_validateParticipant (entry : String × String) :
    Rule.Decide Rule.violation (participantRules entry) (validateParticipant entry) :=
  (Rule.Decide.refuseBlank entry.1 _ _).bind (.refuseBlank entry.2 _ _)

namespace ProfileSettings

/-- The check of a profile decides the rules on profiles. -/
theorem decide_validate (p : ProfileSettings) :
    Rule.Decide Rule.violation p.rules p.validate := by
  have hname := Rule.Decide.refuseBlank p.name .blankProfileName
  have hversion := Rule.Decide.refuseBlank p.version (.blankProfileVersion p.name)
  refine (hname _).bind ((hversion _).bind ?_)
  cases p.extractor with
  | none => exact .nil
  | some extractor => exact .refuseBlank extractor _ _

/-- The check of a profile of the default tier decides the rule on it. -/
theorem decide_validateDefault (p : ProfileSettings) :
    Rule.Decide Rule.violation [p.defaultRule] p.validateDefault :=
  .of_broken p.defaultRule (by rw [Option.isSome_iff_ne_none]; rfl)

end ProfileSettings

namespace Config

/-- The check of a configuration decides its rules. -/
theorem decide_validate (c : Config) : Rule.Decide Rule.violation c.rules c.validate := by
  have htier : Rule.Decide Rule.violation (c.defaultProfiles.map ProfileSettings.defaultRule)
      (c.defaultProfiles.forM ProfileSettings.validateDefault) := by
    rw [← List.flatMap_pure_eq_map]
    exact .forM ProfileSettings.decide_validateDefault c.defaultProfiles
  have hprofiles := (Rule.Decide.forM ProfileSettings.decide_validate
    (c.defaultProfiles ++ c.profiles)).bind htier
  have hids := (Rule.Decide.forM decide_validateParticipant
    c.participant.protocols.entries).bind hprofiles
  have hdefaultId := Rule.Decide.refuseBlank c.participant.defaultId .blankDefaultId
  rw [rules, List.append_assoc]
  exact (Rule.Decide.refuseBlank c.defaultExtractor .blankDefaultExtractor _).bind
    ((hdefaultId _).bind hids)

/-- A rule on a configuration is reported in its own words. -/
theorem message_violation_of_mem (c : Config) :
    ∀ rule ∈ c.rules, rule.violation.message = rule.words := by
  have hid (entry : String × String) :
      ∀ rule ∈ participantRules entry, rule.violation.message = rule.words := by
    rw [participantRules, List.forall_mem_cons, List.forall_mem_singleton]
    exact ⟨rfl, rfl⟩
  have hprofile (p : ProfileSettings) :
      ∀ rule ∈ p.rules, rule.violation.message = rule.words := by
    rw [ProfileSettings.rules, List.forall_mem_cons, List.forall_mem_cons, List.forall_mem_map]
    exact ⟨rfl, rfl, fun extractor _ ↦ rfl⟩
  rw [rules, List.forall_mem_cons, List.forall_mem_cons, List.forall_mem_append,
    List.forall_mem_append, List.forall_mem_flatMap, List.forall_mem_flatMap, List.forall_mem_map]
  exact ⟨rfl, rfl, ⟨fun entry _ ↦ hid entry, fun p _ ↦ hprofile p⟩, fun p _ ↦ rfl⟩

/-- What the check of a configuration reports. It passes exactly when no rule is broken, and
otherwise reports the first rule that is, in the words of this rule; these show the protocol or the
profile that the rule is on. In the order of the rules the ids under protocols stand by the bytes of
the protocols, each once. -/
structure ReportsFirst (c : Config) (outcome : Except Violation Unit) : Prop where
  violation : Rule.Decide Rule.violation c.rules outcome
  message : Rule.Decide Rule.words c.rules (outcome.mapError Violation.message)
  named : ∀ violation, outcome = .error violation →
    Text.Shows '\'' (violation.named.map (Text.between "'")) violation.message
  ascending : c.participant.protocols.entries.Pairwise fun a b ↦ Text.bytes a.1 < Text.bytes b.1
  ids : ∀ protocol id, (protocol, id) ∈ c.participant.protocols.entries ↔
    c.participant.protocols.get? protocol = some id

/-- The check of every configuration reports the first rule that it breaks. -/
theorem validate_reports_first_broken (c : Config) : c.ReportsFirst c.validate where
  violation := c.decide_validate
  message := c.decide_validate.mapError c.message_violation_of_mem
  named violation _ := violation.shows_message
  ascending := c.participant.protocols.pairwise_bytes
  ids _ _ := NameMap.mem_entries_iff

/-- A default profile may not name an extractor, but the blank version of a standard profile after
it is reported first. -/
example : validate ⟨"by-issuer", ⟨"did:a", .empty⟩,
    [⟨"old", "1", "/", "HTTPS", ⟨"urn", none, .literal "a", none, none⟩, some "by-issuer"⟩],
    [⟨"new", "\u2003", "/", "HTTPS", ⟨"urn", none, .literal "b", none, none⟩, none⟩]⟩ =
      .error (.blankProfileVersion "new") := by
  decide +kernel

end Config

end ConnectorProfiles
