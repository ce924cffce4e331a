import Mathlib.Data.List.Forall2
import RowMapper.Proofs.Sql.Conditions

/-!
# `RowMapper.Proofs.Sql.Spelling`: the filters that documents spell

`Filter.Spells` relates a document to the filter it spells: null, a string, or an object with one
condition for each of its members, in their order, which is the order of the names. A condition is
spelled as an object from operators to values, as a pair of an operator and a value, or as any other
document, which is a value to be equal to (`Condition.Spells`). `Filter.Refused` relates any other
document to the error: that of its first member that spells no condition.

* `Filter.documents_spell_filters`: reading a document gives what it spells or is refused for, which
  documents spell something, and that a pair and an object of one operator mean the same.
-/

set_option autoImplicit false

namespace RowMapper.Sql

open RowMapper.Text

/-! ### Reading a list entry by entry -/

section

variable {α β ε : Type} {read : α → Except ε β} {items : List α}

theorem bind_pure_eq_ok_iff {result : Except ε α} {next : α → β} {value : β} :
    (result >>= fun found => pure (next found)) = .ok value ↔
      ∃ found, result = .ok found ∧ next found = value := by
  cases result with
  | error cause =>
      show Except.error cause = .ok value ↔ _
      simp
  | ok found =>
      show Except.ok (next found) = .ok value ↔ _
      simp

theorem bind_pure_eq_error_iff {result : Except ε α} {next : α → β} {cause : ε} :
    (result >>= fun found => pure (next found)) = .error cause ↔ result = .error cause := by
  cases result with
  | error refusal =>
      show Except.error refusal = .error cause ↔ _
      simp
  | ok found =>
      show Except.ok (next found) = .error cause ↔ _
      simp

/-- What is accepted and what is refused is known from the two relations if one of them holds. -/
theorem eq_ok_iff_and_eq_error_iff {result : Except ε α} {accepted : α → Prop}
    {refused : ε → Prop} (hok : ∀ found, accepted found → result = .ok found)
    (herror : ∀ cause, refused cause → result = .error cause)
    (hcases : (∃ found, accepted found) ∨ ∃ cause, refused cause) :
    (∀ found, result = .ok found ↔ accepted found) ∧
      ∀ cause, result = .error cause ↔ refused cause := by
  obtain ⟨found, hfound⟩ | ⟨cause, hcause⟩ := hcases
  · obtain rfl := hok found hfound
    refine ⟨fun other => ⟨?_, hok other⟩, fun cause => ⟨?_, herror cause⟩⟩
    · rintro ⟨⟩
      exact hfound
    · rintro ⟨⟩
  · obtain rfl := herror cause hcause
    refine ⟨fun other => ⟨?_, hok other⟩, fun other => ⟨?_, herror other⟩⟩
    · rintro ⟨⟩
    · rintro ⟨⟩
      exact hcause

theorem exists_of_mem_of_forall₂ {related : α → β → Prop} {results : List β}
    (h : List.Forall₂ related items results) : ∀ item ∈ items, ∃ result, related item result := by
  induction h with
  | nil => exact List.forall_mem_nil _
  | cons hfirst _ ih => exact List.forall_mem_cons.2 ⟨⟨_, hfirst⟩, ih⟩

/-- A list is read if each of its entries is. -/
theorem mapM_eq_ok_iff {results : List β} : items.mapM read = .ok results ↔
    List.Forall₂ (fun item result => read item = .ok result) items results := by
  induction items generalizing results with
  | nil =>
      rw [List.forall₂_nil_left_iff]
      exact ⟨fun h => (Except.ok.inj h).symm, fun h => h ▸ rfl⟩
  | cons item items ih =>
      rw [List.forall₂_cons_left_iff]
      constructor
      · intro h
        obtain ⟨first, rest, hfirst, hrest, rfl⟩ := mapM_cons_eq_ok h
        exact ⟨first, rest, hfirst, ih.1 hrest, rfl⟩
      · rintro ⟨first, rest, hfirst, hrest, rfl⟩
        rw [List.mapM_cons, hfirst, ih.2 hrest]
        rfl

theorem mapM_cons_eq_error_iff {item : α} {cause : ε} :
    (item :: items).mapM read = .error cause ↔
      read item = .error cause ∨
        (∃ first, read item = .ok first) ∧ items.mapM read = .error cause := by
  rw [List.mapM_cons]
  cases read item with
  | error refusal =>
      show Except.error refusal = .error cause ↔ _
      simp
  | ok first =>
      show (items.mapM read >>= fun rest => pure (first :: rest)) = .error cause ↔ _
      cases items.mapM read with
      | error refusal =>
          show Except.error refusal = .error cause ↔ _
          simp
      | ok rest =>
          show Except.ok (first :: rest) = .error cause ↔ _
          simp

/-- A list is refused for its first entry that is refused. -/
theorem mapM_eq_error_iff {cause : ε} : items.mapM read = .error cause ↔
    ∃ front item back, items = front ++ item :: back ∧
      (∀ earlier ∈ front, ∃ result, read earlier = .ok result) ∧ read item = .error cause := by
  induction items with
  | nil =>
      constructor
      · rintro ⟨⟩
      · rintro ⟨front, item, back, hsplit, -, -⟩
        simp at hsplit
  | cons item items ih =>
      rw [mapM_cons_eq_error_iff, ih]
      constructor
      · rintro (hitem | ⟨hitem, front, found, back, rfl, hfront, hfound⟩)
        · exact ⟨[], item, items, rfl, List.forall_mem_nil _, hitem⟩
        · exact ⟨item :: front, found, back, rfl, List.forall_mem_cons.2 ⟨hitem, hfront⟩, hfound⟩
      · rintro ⟨front, found, back, hsplit, hfront, hfound⟩
        cases front with
        | nil =>
            obtain ⟨rfl, -⟩ := List.cons.inj hsplit
            exact .inl hfound
        | cons first front =>
            obtain ⟨rfl, rfl⟩ := List.cons.inj hsplit
            obtain ⟨hitem, hfront⟩ := List.forall_mem_cons.1 hfront
            exact .inr ⟨hitem, front, found, back, rfl, hfront, hfound⟩

end

/-! ### The names of operators -/

/-- The name by which filters know a comparison. -/
def Operator.name : Operator → String
  | .eq => "eq"
  | .neq => "neq"
  | .lt => "lt"
  | .lte => "lte"
  | .gt => "gt"
  | .gte => "gte"
  | .like => "like"

/-- The text is the name of the operator, in any case. -/
def Operator.Names (text : String) (operator : Operator) : Prop :=
  lower text = operator.name

theorem Operator.named?_eq_some_iff {text : String} {operator : Operator} :
    named? text = some operator ↔ operator.Names text := by
  unfold named? Names
  constructor
  · intro h
    split at h <;> cases h <;> assumption
  · intro h
    rw [h]
    cases operator <;> rfl

theorem Operator.named?_eq_none_iff {text : String} :
    named? text = none ↔ ∀ operator : Operator, ¬ operator.Names text := by
  simp only [← named?_eq_some_iff, Option.eq_none_iff_forall_ne_some, ne_eq]

theorem Operator.read_eq_ok_iff {text : String} {operator : Operator} :
    read text = .ok operator ↔ operator.Names text := by
  rw [← named?_eq_some_iff, read]
  cases named? text <;> simp

theorem Operator.read_eq_error_iff {text : String} {cause : MapperError} :
    read text = .error cause ↔
      (∀ operator : Operator, ¬ operator.Names text) ∧ cause = .unknownOperator text := by
  rw [← named?_eq_none_iff, read]
  cases named? text <;> simp [eq_comm]

/-! ### Conditions -/

namespace Condition

/-- The member of an object of operators spells a comparison. -/
def SpellsComparison (member : String × Json) (comparison : Operator × Value) : Prop :=
  comparison.1.Names member.1 ∧ comparison.2 = .ofJson member.2

/-- The document spells the condition. -/
inductive Spells : Json → Condition → Prop
  /-- An object spells comparisons, in the order of its members. -/
  | operators {members : List (String × Json)} {comparisons : List (Operator × Value)}
      (hne : members ≠ []) (hmembers : List.Forall₂ SpellsComparison members comparisons) :
      Spells (.object members) (.ops comparisons)
  /-- An array of the name of an operator and a value spells one comparison. -/
  | pair {text : String} {operator : Operator} (value : Json) (hname : operator.Names text) :
      Spells (.array [.string text, value]) (.op operator (.ofJson value))
  /-- Anything else is the value that the field is to be equal to. -/
  | value {document : Json} (hobject : ∀ members, document ≠ .object members)
      (hpair : ∀ text value, document = .array [.string text, value] →
        ∀ operator : Operator, ¬ operator.Names text) :
      Spells document (.eq (.ofJson document))

/-- The document spells no condition on the field, for this reason. -/
inductive Refused (field : String) : Json → MapperError → Prop
  | empty : Refused field (.object []) (.invalidFilter (.noOperators field))
  /-- The first name in an object that is not that of an operator. -/
  | unknown {front back : List (String × Json)} {name : String} {value : Json}
      (hfront : ∀ member ∈ front, ∃ operator : Operator, operator.Names member.1)
      (hname : ∀ operator : Operator, ¬ operator.Names name) :
      Refused field (.object (front ++ (name, value) :: back)) (.unknownOperator name)

/-- An object has members, and the names of all of them are operators. -/
def Spellable (document : Json) : Prop :=
  ∀ members, document = .object members →
    members ≠ [] ∧ ∀ member ∈ members, ∃ operator : Operator, operator.Names member.1

/-- The comparison that a member of an object of operators is read as. -/
def readComparison (member : String × Json) : Except MapperError (Operator × Value) := do
  let operator ← Operator.read member.1
  pure (operator, .ofJson member.2)

theorem readComparison_eq_ok_iff {member : String × Json} {comparison : Operator × Value} :
    readComparison member = .ok comparison ↔ SpellsComparison member comparison := by
  rw [readComparison, bind_pure_eq_ok_iff]
  simp only [Operator.read_eq_ok_iff]
  constructor
  · rintro ⟨operator, hname, rfl⟩
    exact ⟨hname, rfl⟩
  · rintro ⟨hname, hvalue⟩
    exact ⟨comparison.1, hname, Prod.ext rfl hvalue.symm⟩

theorem readComparison_eq_error_iff {member : String × Json} {cause : MapperError} :
    readComparison member = .error cause ↔
      (∀ operator : Operator, ¬ operator.Names member.1) ∧ cause = .unknownOperator member.1 := by
  rw [readComparison, bind_pure_eq_error_iff, Operator.read_eq_error_iff]

theorem ofJson_object (field : String) {members : List (String × Json)} (hne : members ≠ []) :
    ofJson field (.object members) = (members.mapM readComparison).map Condition.ops := by
  obtain ⟨member, rest, rfl⟩ := List.exists_cons_of_ne_nil hne
  show ((member :: rest).mapM readComparison >>= fun comparisons =>
    Except.ok (Condition.ops comparisons)) = _
  cases (member :: rest).mapM readComparison <;> rfl

theorem ofJson_pair (field : String) {text : String} (value : Json) {operator : Operator}
    (hname : operator.Names text) :
    ofJson field (.array [.string text, value]) = .ok (.op operator (.ofJson value)) := by
  have hread : ((Json.string text).asString?.bind Operator.named?) = some operator :=
    Operator.named?_eq_some_iff.2 hname
  simp only [ofJson, hread]

theorem ofJson_value (field : String) {document : Json}
    (hobject : ∀ members, document ≠ .object members)
    (hpair : ∀ text value, document = .array [.string text, value] →
      ∀ operator : Operator, ¬ operator.Names text) :
    ofJson field document = .ok (.eq (.ofJson document)) := by
  unfold ofJson
  split
  case h_1 first second =>
    split
    case h_1 operator hread =>
      -- Only a string can name an operator.
      obtain ⟨text, htext, hnamed⟩ := Option.bind_eq_some_iff.1 hread
      cases first <;> cases htext
      exact absurd (Operator.named?_eq_some_iff.1 hnamed) (hpair _ _ rfl operator)
    case h_2 => rfl
  case h_2 => exact absurd rfl (hobject [])
  case h_3 members _ => exact absurd rfl (hobject members)
  case h_4 => rfl

/-- What a document spells is what it is read as. -/
theorem Spells.ofJson_eq {document : Json} {condition : Condition} (h : Spells document condition)
    (field : String) : ofJson field document = .ok condition := by
  cases h with
  | operators hne hmembers =>
      have hread := hmembers.imp fun _ _ => readComparison_eq_ok_iff.2
      rw [ofJson_object field hne, mapM_eq_ok_iff.2 hread]
      rfl
  | pair value hname => exact ofJson_pair field value hname
  | value hobject hpair => exact ofJson_value field hobject hpair

theorem Refused.ofJson_eq {field : String} {document : Json} {cause : MapperError}
    (h : Refused field document cause) : ofJson field document = .error cause := by
  cases h with
  | empty => rfl
  | @unknown front back name value hfront hname =>
      have hread : (front ++ (name, value) :: back).mapM readComparison
          = .error (.unknownOperator name) := by
        refine mapM_eq_error_iff.2 ⟨front, (name, value), back, rfl, fun member hmember => ?_,
          readComparison_eq_error_iff.2 ⟨hname, rfl⟩⟩
        obtain ⟨operator, hoperator⟩ := hfront member hmember
        exact ⟨(operator, .ofJson member.2), readComparison_eq_ok_iff.2 ⟨hoperator, rfl⟩⟩
      rw [ofJson_object field (by simp), hread]
      rfl

/-- A document spells a condition or is refused. -/
theorem exists_spells_or_refused (field : String) (document : Json) :
    (∃ condition, Spells document condition) ∨ ∃ cause, Refused field document cause := by
  by_cases hobject : ∃ members, document = .object members
  · obtain ⟨members, rfl⟩ := hobject
    by_cases hne : members = []
    · subst hne
      exact .inr ⟨_, .empty⟩
    cases hread : members.mapM readComparison with
    | ok comparisons =>
        have hmembers := (mapM_eq_ok_iff.1 hread).imp fun _ _ => readComparison_eq_ok_iff.1
        exact .inl ⟨_, .operators hne hmembers⟩
    | error cause =>
        obtain ⟨front, ⟨name, value⟩, back, rfl, hfront, hitem⟩ := mapM_eq_error_iff.1 hread
        refine .inr ⟨_, .unknown (fun member hmember => ?_) (readComparison_eq_error_iff.1 hitem).1⟩
        obtain ⟨comparison, hcomparison⟩ := hfront member hmember
        exact ⟨_, (readComparison_eq_ok_iff.1 hcomparison).1⟩
  · have hobject : ∀ members, document ≠ .object members := fun members h => hobject ⟨members, h⟩
    by_cases hpair : ∃ text value, document = .array [.string text, value] ∧
        ∃ operator : Operator, operator.Names text
    · obtain ⟨text, value, rfl, operator, hname⟩ := hpair
      exact .inl ⟨_, .pair value hname⟩
    · refine .inl ⟨_, .value hobject fun text value hdocument operator hname => ?_⟩
      exact hpair ⟨text, value, hdocument, operator, hname⟩

/-- What a document is read as is what it spells, and it is not read for what it is refused for. -/
theorem ofJson_eq_iff (field : String) (document : Json) :
    (∀ condition, ofJson field document = .ok condition ↔ Spells document condition) ∧
      ∀ cause, ofJson field document = .error cause ↔ Refused field document cause :=
  eq_ok_iff_and_eq_error_iff (fun _ h => h.ofJson_eq field) (fun _ h => h.ofJson_eq)
    (exists_spells_or_refused field document)

/-- A document spells a condition unless it is an object without members or with another name. -/
theorem exists_spells_iff (document : Json) :
    (∃ condition, Spells document condition) ↔ Spellable document := by
  constructor
  · rintro ⟨condition, h⟩ members rfl
    cases h with
    | operators hne hmembers =>
        refine ⟨hne, fun member hmember => ?_⟩
        obtain ⟨comparison, hspells⟩ := exists_of_mem_of_forall₂ hmembers member hmember
        exact ⟨_, hspells.1⟩
    | value hobject => exact absurd rfl (hobject members)
  · intro h
    refine (exists_spells_or_refused "" document).resolve_right ?_
    rintro ⟨cause, hcause⟩
    cases hcause with
    | empty => exact (h [] rfl).1 rfl
    | @unknown front back name value hfront hname =>
        obtain ⟨operator, hoperator⟩ := (h _ rfl).2 (name, value) (by simp)
        exact hname operator hoperator

end Condition

/-! ### Filters -/

namespace Filter

/-- The member of an object spells a condition on the field of its name. -/
def SpellsStep (member : String × Json) (step : String × Condition) : Prop :=
  step.1 = member.1 ∧ Condition.Spells member.2 step.2

/-- The document spells the filter. -/
inductive Spells : Json → Filter → Prop
  | null : Spells .null .empty
  | words (sql : String) : Spells (.string sql) (.raw sql)
  /-- An object spells conditions on fields, which are added in the order of its members. -/
  | members {members : List (String × Json)} {steps : List (String × Condition)}
      (hmembers : List.Forall₂ SpellsStep members steps) :
      Spells (.object members) (empty.addAll steps)

/-- The document spells no filter, for this reason. -/
inductive Refused : Json → MapperError → Prop
  /-- The first member of an object that spells no condition. -/
  | member {front back : List (String × Json)} {field : String} {document : Json}
      {cause : MapperError} (hfront : ∀ earlier ∈ front, Condition.Spellable earlier.2)
      (hmember : Condition.Refused field document cause) :
      Refused (.object (front ++ (field, document) :: back)) cause
  /-- The document is of another kind. -/
  | document {document : Json} (hnull : document ≠ .null) (hwords : ∀ sql, document ≠ .string sql)
      (hobject : ∀ members, document ≠ .object members) :
      Refused document (.invalidFilter (.wrongDocument document))

/-- The condition that a member of an object is read as. -/
def readStep (member : String × Json) : Except MapperError (String × Condition) := do
  let condition ← Condition.ofJson member.1 member.2
  pure (member.1, condition)

theorem readStep_eq_ok_iff {member : String × Json} {step : String × Condition} :
    readStep member = .ok step ↔ SpellsStep member step := by
  rw [readStep, bind_pure_eq_ok_iff]
  simp only [(Condition.ofJson_eq_iff member.1 member.2).1]
  constructor
  · rintro ⟨condition, hspells, rfl⟩
    exact ⟨rfl, hspells⟩
  · rintro ⟨hfield, hspells⟩
    exact ⟨step.2, hspells, Prod.ext hfield.symm rfl⟩

theorem readStep_eq_error_iff {member : String × Json} {cause : MapperError} :
    readStep member = .error cause ↔ Condition.Refused member.1 member.2 cause := by
  rw [readStep, bind_pure_eq_error_iff, (Condition.ofJson_eq_iff member.1 member.2).2]

/-- A member is read if it spells a condition. -/
theorem exists_readStep_iff (member : String × Json) :
    (∃ step, readStep member = .ok step) ↔ Condition.Spellable member.2 := by
  simp only [readStep_eq_ok_iff, ← Condition.exists_spells_iff]
  exact ⟨fun ⟨step, h⟩ => ⟨step.2, h.2⟩, fun ⟨condition, h⟩ => ⟨(member.1, condition), rfl, h⟩⟩

theorem ofJson_object (members : List (String × Json)) :
    Filter.ofJson (.object members) = (members.mapM readStep).map Filter.fields := by
  show (members.mapM readStep >>= fun conditions => Except.ok (Filter.fields conditions)) = _
  cases members.mapM readStep <;> rfl

theorem Spells.ofJson_eq {document : Json} {filter : Filter} (h : Spells document filter) :
    Filter.ofJson document = .ok filter := by
  cases h with
  | null | words => rfl
  | @members members steps hmembers =>
      have hread := hmembers.imp fun _ _ => readStep_eq_ok_iff.2
      have hfields : empty.addAll steps = .fields steps := addAll_fields [] steps
      rw [ofJson_object, mapM_eq_ok_iff.2 hread, hfields]
      rfl

theorem Refused.ofJson_eq {document : Json} {cause : MapperError} (h : Refused document cause) :
    Filter.ofJson document = .error cause := by
  cases h with
  | @member front back field document cause hfront hmember =>
      have hread : (front ++ (field, document) :: back).mapM readStep = .error cause :=
        mapM_eq_error_iff.2 ⟨front, (field, document), back, rfl,
          fun earlier hearlier => (exists_readStep_iff earlier).2 (hfront earlier hearlier),
          readStep_eq_error_iff.2 hmember⟩
      rw [ofJson_object, hread]
      rfl
  | document hnull hwords hobject =>
      unfold Filter.ofJson
      split
      case h_1 sql => exact absurd rfl (hwords sql)
      case h_2 => exact absurd rfl hnull
      case h_3 members => exact absurd rfl (hobject members)
      case h_4 => rfl

/-- A document spells a filter or is refused. -/
theorem exists_spells_or_refused (document : Json) :
    (∃ filter, Spells document filter) ∨ ∃ cause, Refused document cause := by
  cases document with
  | null => exact .inl ⟨_, .null⟩
  | string sql => exact .inl ⟨_, .words sql⟩
  | object members =>
      cases hread : members.mapM readStep with
      | ok steps =>
          have hmembers := (mapM_eq_ok_iff.1 hread).imp fun _ _ => readStep_eq_ok_iff.1
          exact .inl ⟨_, .members hmembers⟩
      | error cause =>
          obtain ⟨front, ⟨field, document⟩, back, rfl, hfront, hitem⟩ := mapM_eq_error_iff.1 hread
          have hspellable := fun earlier h => (exists_readStep_iff earlier).1 (hfront earlier h)
          exact .inr ⟨_, .member hspellable (readStep_eq_error_iff.1 hitem)⟩
  | bool | number | array => exact .inr ⟨_, .document (by simp) (by simp) (by simp)⟩

/-- What a document is read as is what it spells, and it is not read for what it is refused for. -/
theorem ofJson_eq_iff (document : Json) :
    (∀ filter, Filter.ofJson document = .ok filter ↔ Spells document filter) ∧
      ∀ cause, Filter.ofJson document = .error cause ↔ Refused document cause :=
  eq_ok_iff_and_eq_error_iff (fun _ h => h.ofJson_eq) (fun _ h => h.ofJson_eq)
    (exists_spells_or_refused document)

/-- An object spells a filter if all of its members spell conditions. -/
theorem exists_spells_object_iff (members : List (String × Json)) :
    (∃ filter, Spells (.object members) filter) ↔
      ∀ member ∈ members, Condition.Spellable member.2 := by
  constructor
  · rintro ⟨filter, h⟩ member hmember
    cases h with
    | members hmembers =>
        obtain ⟨step, hstep⟩ := exists_of_mem_of_forall₂ hmembers member hmember
        exact (Condition.exists_spells_iff member.2).1 ⟨step.2, hstep.2⟩
  · intro h
    refine (exists_spells_or_refused (.object members)).resolve_right ?_
    rintro ⟨cause, hcause⟩
    cases hcause with
    | @member front back field document _ hfront hmember =>
        obtain ⟨condition, hcondition⟩ :=
          (Condition.exists_spells_iff document).2 (h (field, document) (by simp))
        cases (hcondition.ofJson_eq field).symm.trans hmember.ofJson_eq
    | document hnull hwords hobject => exact absurd rfl (hobject members)

/-- A member may be replaced by another one on the same field that means the same. -/
theorem toPredicate?_ofJson_congr {field : String} {document other : Json}
    {condition condition' : Condition} (hdocument : Condition.Spells document condition)
    (hother : Condition.Spells other condition')
    (hsame : condition.toPredicate field = condition'.toPredicate field)
    (front back : List (String × Json)) :
    (Filter.ofJson (.object (front ++ (field, document) :: back))).map Filter.toPredicate?
      = (Filter.ofJson (.object (front ++ (field, other) :: back))).map Filter.toPredicate? := by
  have hread : readStep (field, document) = .ok (field, condition) :=
    readStep_eq_ok_iff.2 ⟨rfl, hdocument⟩
  have hread' : readStep (field, other) = .ok (field, condition') :=
    readStep_eq_ok_iff.2 ⟨rfl, hother⟩
  rw [ofJson_object, ofJson_object, List.mapM_append, List.mapM_append, List.mapM_cons,
    List.mapM_cons, hread, hread']
  cases front.mapM readStep with
  | error cause => rfl
  | ok first =>
      cases back.mapM readStep with
      | error cause => rfl
      | ok rest =>
          show Except.ok (Filter.fields (first ++ (field, condition) :: rest)).toPredicate?
            = .ok (Filter.fields (first ++ (field, condition') :: rest)).toPredicate?
          rw [toPredicate?_fields, toPredicate?_fields, if_neg (by simp), if_neg (by simp), chainOf,
            chainOf, List.map_append, List.map_append, List.map_cons, List.map_cons, hsame]

/-- Reading a document gives the filter that it spells, or the error that it is refused for. A
filter is spelled by null, by a string, and by an object if each member that is an object has
members itself, all of them named like operators. A pair of an operator and a value and an object of
just the one operator mean the same, wherever they stand. -/
theorem documents_spell_filters (document : Json) :
    (∀ filter, Filter.ofJson document = .ok filter ↔ Spells document filter) ∧
    (∀ cause, Filter.ofJson document = .error cause ↔ Refused document cause) ∧
    ((∃ filter, Filter.ofJson document = .ok filter) ↔
      document = .null ∨ (∃ sql, document = .string sql) ∨
        ∃ members, document = .object members ∧
          ∀ member ∈ members, Condition.Spellable member.2) ∧
    ∀ (operator : Operator) (text : String), operator.Names text →
      ∀ (front back : List (String × Json)) (field : String) (value : Json),
        (Filter.ofJson (.object (front ++ (field, .array [.string text, value]) :: back))).map
            Filter.toPredicate?
          = (Filter.ofJson (.object (front ++ (field, .object [(text, value)]) :: back))).map
              Filter.toPredicate? := by
  obtain ⟨hspells, hrefused⟩ := ofJson_eq_iff document
  refine ⟨hspells, hrefused, ?_, fun operator text hname front back field value => ?_⟩
  · simp only [hspells]
    constructor
    · rintro ⟨filter, h⟩
      cases h with
      | null => exact .inl rfl
      | words sql => exact .inr (.inl ⟨sql, rfl⟩)
      | @members members _ hmembers =>
          have hspellable := (exists_spells_object_iff members).1 ⟨_, .members hmembers⟩
          exact .inr (.inr ⟨members, rfl, hspellable⟩)
    · rintro (rfl | ⟨sql, rfl⟩ | ⟨members, rfl, hmembers⟩)
      · exact ⟨_, .null⟩
      · exact ⟨_, .words sql⟩
      · exact (exists_spells_object_iff members).2 hmembers
  · have hentry : Condition.SpellsComparison (text, value) (operator, .ofJson value) :=
      ⟨hname, rfl⟩
    exact toPredicate?_ofJson_congr (.pair value hname)
      (.operators (List.cons_ne_nil _ _) (.cons hentry .nil)) rfl front back

/-- A lower limit is spelled as a pair or as an object, and its operator in any case. -/
theorem documents_spell_age_limit :
    let limit : Json := .number (.integer 18 (by decide))
    let pair : List (String × Json) := [("age", .array [.string "GTE", limit])]
    let object : List (String × Json) := [("age", .object [("GTE", limit)])]
    Operator.gte.Names "GTE" ∧
    (Filter.ofJson (.object pair)).map Filter.toPredicate?
      = (Filter.ofJson (.object object)).map Filter.toPredicate? ∧
    ∃ filter, Filter.ofJson (.object object) = .ok filter ∧
      filter.toPredicate?.map Predicate.sql = some "age >= 18" := by
  intro limit pair object
  have hname : Operator.gte.Names "GTE" := by rfl
  have h := documents_spell_filters (.object object)
  have hspelled : Spells (.object object) (empty.addAll [("age", .ops [(.gte, .int 18)])]) := by
    have hentry : Condition.SpellsComparison ("GTE", limit) (.gte, .int 18) := ⟨hname, rfl⟩
    exact .members (.cons ⟨rfl, .operators (List.cons_ne_nil _ _) (.cons hentry .nil)⟩ .nil)
  exact ⟨hname, h.2.2.2 .gte "GTE" hname [] [] "age" limit, _, (h.1 _).2 hspelled,
    by decide +kernel⟩

end Filter

end RowMapper.Sql
