import RowMapper.Proofs.Repository.Frame
import RowMapper.Repository.Find

/-!
# `RowMapper.Proofs.Repository.Messages`: what a repository adds to its messages

Storing and removing records never fails with an error, so the messages of a repository are all that
is known of what went wrong. Every operation leaves the repository as it was with messages added
behind the others (`Repository.adding`), and which ones these are says how it ended: validating and
the hooks are taken down in `validate_eq` and `allow_eq`, and what the engine answers in `Settles`.

`Repository.messages_of_run` is about any number of requests to one repository, one after the other,
each with hooks that may answer in another way: messages are never lost or changed, every refusal is
explained by one at least, and a success adds nothing but what the hook before saving has said.
-/

set_option autoImplicit false

namespace RowMapper

variable {ι κ ω : Type}

/-! ### Messages under a name -/

namespace Errors

/-- The messages under a name, in order. -/
def under (errors : Errors) (field : String) : List String :=
  (errors.get? field).getD []

/-- The messages under a name among those that are added. -/
def messagesFor (field : String) (added : List (String × String)) : List String :=
  (added.filter (·.1 == field)).map (·.2)

theorem under_add (errors : Errors) (field message other : String) :
    (errors.add field message).under other
      = errors.under other ++ messagesFor other [(field, message)] := by
  unfold under get? add
  by_cases hsame : other = field
  · subst hsame
    rw [SortedMap.get?_insert_self]
    simp [messagesFor, get?]
  · rw [SortedMap.get?_insert_of_ne _ _ hsame]
    simp [messagesFor, Ne.symm hsame]

/-- Added messages stand behind those that were there before. -/
theorem under_addAll (errors : Errors) (added : List (String × String)) (field : String) :
    (errors.addAll added).under field = errors.under field ++ messagesFor field added := by
  induction added generalizing errors with
  | nil => exact (List.append_nil _).symm
  | cons message rest ih =>
      show ((errors.add message.1 message.2).addAll rest).under field = _
      rw [ih, under_add, List.append_assoc, messagesFor, messagesFor, messagesFor,
        ← List.map_append, ← List.filter_append, List.singleton_append]

theorem addAll_append (errors : Errors) (first second : List (String × String)) :
    errors.addAll (first ++ second) = (errors.addAll first).addAll second :=
  List.foldl_append

/-- The number of messages is the same only if none was added. -/
theorem size_addAll_beq (errors : Errors) (added : List (String × String)) :
    ((errors.addAll added).size == errors.size) = added.isEmpty := by
  rw [size_addAll]
  cases added <;> simp

end Errors

namespace Repository

/-- The repository with messages added. -/
def adding (repository : Repository ι κ) (added : List (String × String)) : Repository ι κ :=
  { repository with errors := repository.errors.addAll added }

theorem adding_nil (repository : Repository ι κ) : repository.adding [] = repository := rfl

theorem adding_adding (repository : Repository ι κ) (first second : List (String × String)) :
    (repository.adding first).adding second = repository.adding (first ++ second) := by
  rw [adding, adding, adding, Errors.addAll_append]

theorem addDatabaseError_eq (repository : Repository ι κ) (message : String) :
    repository.addDatabaseError message = repository.adding [(Errors.databaseKey, message)] := rfl

end Repository

/-! ### Hooks and rules -/

/-- What is taken down of what a hook decides: its messages, and for a refusal without a message the
one that is given here. -/
def Verdict.notes (verdict : Verdict) (refusal : String) : List (String × String) :=
  if verdict.accepts || !verdict.messages.isEmpty then verdict.messages
  else [(Errors.validationKey, refusal)]

theorem Verdict.notes_of_accepts {verdict : Verdict} (h : verdict.accepts = true)
    (refusal : String) : verdict.notes refusal = verdict.messages := by
  rw [notes, h, Bool.true_or, if_pos rfl]

/-- A refusal is never left unexplained. -/
theorem Verdict.notes_ne_nil {verdict : Verdict} (h : verdict.accepts = false) (refusal : String) :
    verdict.notes refusal ≠ [] := by
  rw [notes, h, Bool.false_or]
  split
  · simp_all
  · exact List.cons_ne_nil _ _

namespace Repository

variable (repository : Repository ι κ) (record : Record ι κ)

theorem heed_eq (verdict : Verdict) (refusal : String) :
    repository.heed verdict refusal
      = (verdict.accepts, repository.adding (verdict.notes refusal)) := rfl

/-- What validating a record adds: what the hook says and, if it accepts, what the record breaks of
the rules of the fields. -/
def findings : List (String × String) :=
  let verdict := repository.hooks.beforeValidate record repository.errors
  verdict.notes "Presented problems before validating" ++
    if verdict.accepts then repository.entity.faults record else []

/-- A record is valid when there is nothing to add. -/
theorem validate_eq : repository.validate record
    = ((repository.findings record).isEmpty, repository.adding (repository.findings record)) := by
  unfold validate findings
  simp only [heed_eq]
  cases haccepts : (repository.hooks.beforeValidate record repository.errors).accepts with
  | false =>
      have hnotes := Verdict.notes_ne_nil haccepts "Presented problems before validating"
      simp [hnotes]
  | true =>
      rw [Verdict.notes_of_accepts haccepts, if_pos rfl, ← adding_adding]
      refine Prod.ext ?_ rfl
      show (((repository.errors.addAll _).addAll _).size == repository.errors.size) = _
      rw [← Errors.addAll_append]
      exact Errors.size_addAll_beq _ _

theorem findings_of_silent
    (h : repository.hooks.beforeValidate record repository.errors = ⟨false, []⟩) :
    repository.findings record
      = [(Errors.validationKey, "Presented problems before validating")] := by
  rw [findings, h]
  rfl

theorem findings_of_valid (h : ¬ repository.Invalid record) : repository.findings record = [] := by
  have hvalid := repository.validate_of_not_invalid record h
  rw [validate_eq] at hvalid
  exact List.isEmpty_iff.1 (Prod.mk.inj hvalid).1

/-- What validation adds to a save, where it is asked for. -/
def validation (validated : Bool) : List (String × String) :=
  if validated then repository.findings record else []

/-- What is added before a save goes on: what validation finds or else what the hook before saving
says. -/
def remarks (validated : Bool) : List (String × String) :=
  let verdict := repository.hooks.beforeSave record repository.errors
  repository.validation record validated ++ if (repository.validation record validated).isEmpty
    then verdict.notes "Presented problems before saving" else []

/-- A save is allowed if validation finds nothing and the hook before saving accepts. -/
theorem allow_eq (validated : Bool) : repository.allow validated record
    = ((repository.validation record validated).isEmpty &&
        (repository.hooks.beforeSave record repository.errors).accepts,
      repository.adding (repository.remarks record validated)) := by
  have hvalidated : (if validated then repository.validate record else (true, repository))
      = ((repository.validation record validated).isEmpty,
        repository.adding (repository.validation record validated)) := by
    cases validated with
    | false => rfl
    | true => exact repository.validate_eq record
  rw [allow, hvalidated, remarks]
  cases repository.validation record validated with
  | nil => rfl
  | cons message rest => simp

variable {repository record} {validated : Bool}

theorem remarks_ne_nil (h : (repository.allow validated record).1 = false) :
    repository.remarks record validated ≠ [] := by
  rw [allow_eq] at h
  rw [remarks]
  cases hfound : repository.validation record validated with
  | nil =>
      rw [hfound] at h
      exact Verdict.notes_ne_nil h _
  | cons message rest => simp

theorem remarks_of_allowed (h : (repository.allow validated record).1 = true) :
    (repository.hooks.beforeSave record repository.errors).accepts = true ∧
    repository.remarks record validated
      = (repository.hooks.beforeSave record repository.errors).messages := by
  rw [allow_eq, Bool.and_eq_true] at h
  rw [remarks, if_pos h.1, List.isEmpty_iff.1 h.1, Verdict.notes_of_accepts h.2]
  exact ⟨h.2, rfl⟩

end Repository

/-! ### What the engine answers -/

/-- How writing ends, and what it leaves of the repository: everything that was sent is accepted and
nothing is added, or it fails for one cause, which is added, and this is what the engine answers if
anything was sent. -/
inductive Settles (repository : Repository ι κ) (sent : List Exchange) :
    Bool → Repository ι κ → Prop
  | accepted (h : ∀ exchange ∈ sent, exchange.accepted = true) :
      Settles repository sent true repository
  | failed (cause : MapperError) (h : ∀ exchange ∈ sent, exchange.answer = .error cause) :
      Settles repository sent false (repository.addDatabaseError cause.message)

namespace Repository

variable {repository : Repository ι κ} {record : Record ι κ} {backend : Backend κ ω}

theorem Effect.settles {now : Int64} {world : ω} {after : ω × List Exchange}
    {outcome : Outcome ι κ}
    (h : Effect repository record backend.logged now (world, []) outcome after) :
    Settles repository after.2 outcome.done outcome.repository := by
  cases h with
  | inserted _ hquery | updated _ _ _ hquery =>
      have hlog : after.2 = [_] := Backend.logged_query hquery
      refine .accepted ?_
      simp [hlog]
  | insertRejected _ hquery | updateRejected _ _ _ hquery =>
      have hlog : after.2 = [_] := Backend.logged_query hquery
      refine .failed _ ?_
      simp [hlog]
  | keyless => exact .failed _ (by simp)
  | unchanged => exact .accepted (by simp)

theorem settles_delete (repository : Repository ι κ) (record : Record ι κ) (backend : Backend κ ω)
    (world : ω) :
    let deleted := repository.delete backend.logged record (world, [])
    Settles repository deleted.2.2 deleted.1.done deleted.1.repository := by
  intro deleted
  have hrun : deleted = _ := delete_run repository record backend.logged (world, [])
  rw [hrun]
  cases repository.pk with
  | error cause => exact .failed cause (by simp)
  | ok pk =>
      dsimp only
      generalize hquery : backend.logged.query _ _ _ = result
      obtain ⟨cause | output, after⟩ := result
      · have hlog : after.2 = [_] := Backend.logged_query hquery
        exact .failed cause (by simp [hlog])
      · have hlog : after.2 = [_] := Backend.logged_query hquery
        exact .accepted (by simp [hlog])

end Repository

/-! ### One operation -/

namespace RecordOperation

/-- What the hook before saving decides. Validating and deleting come to no such hook. -/
def verdict (repository : Repository ι κ) (record : Record ι κ) : RecordOperation → Verdict
  | .save _ _ => repository.hooks.beforeSave (repository.prepare record) repository.errors
  | _ => ⟨true, []⟩

/-- The operation comes to a hook that refuses and has no message. The text is what is said in its
place. -/
inductive SilentRefusal (repository : Repository ι κ) (record : Record ι κ) :
    RecordOperation → String → Prop
  | validate
      (hhook : repository.hooks.beforeValidate record repository.errors = ⟨false, []⟩) :
      SilentRefusal repository record .validate "Presented problems before validating"
  | saveValidating {now : Int64} (hhook : repository.hooks.beforeValidate
        (repository.prepare record) repository.errors = ⟨false, []⟩) :
      SilentRefusal repository record (.save true now) "Presented problems before validating"
  | saveSaving {validated : Bool} {now : Int64}
      (hvalid : validated = true → ¬ repository.Invalid (repository.prepare record))
      (hhook : repository.hooks.beforeSave (repository.prepare record) repository.errors
        = ⟨false, []⟩) :
      SilentRefusal repository record (.save validated now) "Presented problems before saving"

/-- What an operation has added to the messages of a repository, given whether it succeeded, the
repository afterwards, and what was sent. -/
structure Reports (operation : RecordOperation) (repository : Repository ι κ)
    (record : Record ι κ) (done : Bool) (after : Repository ι κ) (sent : List Exchange)
    (added : List (String × String)) : Prop where
  leaves : after = repository.adding added
  refused : done = false → added ≠ []
  succeeded : done = true → (operation.verdict repository record).accepts = true ∧
    added = (operation.verdict repository record).messages
  silent : ∀ text, operation.SilentRefusal repository record text →
    added = [(Errors.validationKey, text)]
  rejected : ∀ exchange ∈ sent, ∀ cause, exchange.answer = .error cause →
    added = (operation.verdict repository record).messages
      ++ [(Errors.databaseKey, cause.message)]

variable {operation : RecordOperation} {repository : Repository ι κ} {record : Record ι κ}

/-- Where hooks and rules allow an operation, it reports what the engine answers. -/
theorem reports_of_settles {done : Bool} {after : Repository ι κ} {sent : List Exchange}
    (haccepts : (operation.verdict repository record).accepts = true)
    (hsilent : ∀ text, ¬ operation.SilentRefusal repository record text)
    (h : Settles (repository.adding (operation.verdict repository record).messages) sent done
      after) :
    ∃ added, operation.Reports repository record done after sent added := by
  cases h with
  | accepted hsent =>
      refine ⟨_, rfl, by simp, fun _ => ⟨haccepts, rfl⟩, fun text h => absurd h (hsilent text),
        fun exchange hmem cause hanswer => ?_⟩
      have haccepted := hsent exchange hmem
      rw [Exchange.accepted, hanswer] at haccepted
      contradiction
  | failed cause hsent =>
      refine ⟨(operation.verdict repository record).messages
        ++ [(Errors.databaseKey, cause.message)], ?_, by simp, by simp,
        fun text h => absurd h (hsilent text), fun exchange hmem other hanswer => ?_⟩
      · rw [Repository.addDatabaseError_eq, Repository.adding_adding]
      · obtain rfl : cause = other := Except.error.inj ((hsent exchange hmem).symm.trans hanswer)
        rfl

/-- Where nothing is sent, an operation that is refused reports what it was refused for. -/
theorem reports_of_refused {added : List (String × String)} (hadded : added ≠ [])
    (hsilent : ∀ text, operation.SilentRefusal repository record text →
      added = [(Errors.validationKey, text)]) :
    operation.Reports repository record false (repository.adding added) [] added :=
  ⟨rfl, fun _ => hadded, by simp, hsilent, by simp⟩

theorem exists_reports_validate (repository : Repository ι κ) (record : Record ι κ)
    (backend : Backend κ ω) (world : ω) :
    let performed := perform backend.logged repository record .validate (world, [])
    ∃ added, Reports .validate repository record performed.1.done performed.1.repository
      performed.2.2 added := by
  intro performed
  have hperformed : performed = (⟨(repository.findings record).isEmpty, record,
      repository.adding (repository.findings record)⟩, world, []) := by
    show ((⟨(repository.validate record).1, record, (repository.validate record).2⟩ : Outcome ι κ),
      world, []) = _
    rw [repository.validate_eq]
  have hsilent text (h : SilentRefusal repository record .validate text) :
      repository.findings record = [(Errors.validationKey, text)] := by
    cases h with
    | validate hhook => exact repository.findings_of_silent record hhook
  rw [hperformed]
  cases hfound : repository.findings record with
  | nil =>
      refine ⟨[], rfl, by simp, fun _ => ⟨rfl, rfl⟩, fun text h => ?_, by simp⟩
      exact hfound.symm.trans (hsilent text h)
  | cons message rest =>
      rw [hfound] at hsilent
      exact ⟨_, reports_of_refused (List.cons_ne_nil _ _) hsilent⟩

/-- A hook that refuses and has no message is spoken for, and the save goes no further. -/
theorem SilentRefusal.of_save {validated : Bool} {now : Int64} {text : String}
    (h : SilentRefusal repository record (.save validated now) text) :
    (repository.allow validated (repository.prepare record)).1 = false ∧
      repository.remarks (repository.prepare record) validated
        = [(Errors.validationKey, text)] := by
  rw [Repository.allow_eq, Repository.remarks]
  cases h with
  | saveValidating hhook =>
      have hfound : repository.validation (repository.prepare record) true = _ :=
        repository.findings_of_silent (repository.prepare record) hhook
      rw [hfound]
      exact ⟨rfl, rfl⟩
  | saveSaving hvalid hhook =>
      have hfound : repository.validation (repository.prepare record) validated = [] := by
        cases validated with
        | false => rfl
        | true => exact repository.findings_of_valid _ (hvalid rfl)
      rw [hfound, hhook]
      exact ⟨rfl, rfl⟩

theorem exists_reports_save (repository : Repository ι κ) (record : Record ι κ)
    (backend : Backend κ ω) (world : ω) (validated : Bool) (now : Int64) :
    let saved := repository.store backend.logged now validated record (world, [])
    ∃ added, Reports (.save validated now) repository record saved.1.done saved.1.repository
      saved.2.2 added := by
  intro saved
  have hleaves : (repository.allow validated (repository.prepare record)).2
      = repository.adding (repository.remarks (repository.prepare record) validated) := by
    rw [Repository.allow_eq]
  cases hallowed : (repository.allow validated (repository.prepare record)).1 with
  | false =>
      have hsaved : saved = _ :=
        Repository.store_refused repository record backend.logged now (world, []) hallowed
      rw [hsaved, hleaves]
      exact ⟨_, reports_of_refused (Repository.remarks_ne_nil hallowed) fun text h => h.of_save.2⟩
  | true =>
      obtain ⟨haccepts, hremarks⟩ := Repository.remarks_of_allowed hallowed
      have heffect :=
        Repository.store_effect repository record backend.logged now (world, []) hallowed
      rw [hleaves, hremarks] at heffect
      refine reports_of_settles haccepts (fun text h => ?_) heffect.settles
      rw [h.of_save.1] at hallowed
      contradiction

theorem exists_reports (operation : RecordOperation) (repository : Repository ι κ)
    (record : Record ι κ) (backend : Backend κ ω) (world : ω) :
    let performed := operation.perform backend.logged repository record (world, [])
    ∃ added, operation.Reports repository record performed.1.done performed.1.repository
      performed.2.2 added := by
  cases operation with
  | validate => exact exists_reports_validate repository record backend world
  | save validated now => exact exists_reports_save repository record backend world validated now
  | delete =>
      have hsilent (text : String) : ¬ SilentRefusal repository record .delete text := nofun
      exact reports_of_settles rfl hsilent (repository.settles_delete record backend world)

end RecordOperation

/-! ### Requests to one repository -/

/-- What is read through a repository. -/
inductive ReadRequest where
  | findById (id : Value)
  | fetchAll (find : Find)
  | fetchOptional (find : Find)
  | fetchOne (find : Find)
  | count (filter : Sql.Filter)

/-- Reads, whatever the answer is. -/
def ReadRequest.perform (backend : Backend κ ω) (repository : Repository ι κ) :
    ReadRequest → StateM ω Unit
  | .findById id => discard (repository.findById backend id)
  | .fetchAll find => discard (repository.fetchAll backend find)
  | .fetchOptional find => discard (repository.fetchOptional backend find)
  | .fetchOne find => discard (repository.fetchOne backend find)
  | .count filter => discard (repository.count backend filter)

/-- What is asked of a repository. -/
inductive Request (ι κ : Type) where
  | on (operation : RecordOperation) (record : Record ι κ)
  | addError (field message : String)
  | addDatabaseError (message : String)
  | read (request : ReadRequest)

/-- Does what is asked. The answer is whether an operation on a record has succeeded. -/
def Request.perform (backend : Backend κ ω) (repository : Repository ι κ) :
    Request ι κ → StateM ω (Option Bool × Repository ι κ)
  | .on operation record => do
    let outcome ← operation.perform backend repository record
    return (some outcome.done, outcome.repository)
  | .addError field message => return (none, repository.addError field message)
  | .addDatabaseError message => return (none, repository.addDatabaseError message)
  | .read request => do
    request.perform backend repository
    return (none, repository)

/-- A request that was made: the repository before and after it, the answer, and what was sent. -/
structure Step (ι κ : Type) where
  request : Request ι κ
  before : Repository ι κ
  answer : Option Bool
  after : Repository ι κ
  sent : List Exchange

/-- The request of a step, with the hooks that were asked in it. -/
def Step.made (step : Step ι κ) : Hooks ι κ × Request ι κ :=
  (step.before.hooks, step.request)

/-- The requests that were made to one repository, with the repository and the world as they are
now. -/
structure History (ι κ ω : Type) where
  repository : Repository ι κ
  world : ω
  steps : List (Step ι κ) := []

namespace History

/-- Makes one request of the repository, with hooks that answer in this way. -/
def perform (backend : Backend κ ω) (history : History ι κ ω) :
    Hooks ι κ × Request ι κ → History ι κ ω
  | (hooks, request) =>
    let before := { history.repository with hooks }
    let ((answer, after), world, sent) := request.perform backend.logged before (history.world, [])
    ⟨after, world, history.steps ++ [⟨request, before, answer, after, sent⟩]⟩

/-- Makes requests one after the other. -/
def run (backend : Backend κ ω) (history : History ι κ ω)
    (requests : List (Hooks ι κ × Request ι κ)) : History ι κ ω :=
  requests.foldl (perform backend) history

end History

/-! ### What a request adds -/

/-- What was added by a request: what an operation on a record reports, a message that was handed
over, and nothing where something was read. -/
def Step.Adds (step : Step ι κ) (added : List (String × String)) : Prop :=
  match step.request with
  | .on operation record => ∃ done, step.answer = some done ∧
      operation.Reports step.before record done step.after step.sent added
  | .addError field message => added = [(field, message)]
  | .addDatabaseError message => added = [(Errors.databaseKey, message)]
  | .read _ => added = []

/-- A step adds messages behind those that were there, and to the number of messages as many. -/
structure Step.Explained (step : Step ι κ) (added : List (String × String)) : Prop where
  adds : step.Adds added
  leaves : step.after = step.before.adding added
  under : ∀ field, step.after.errors.under field
    = step.before.errors.under field ++ Errors.messagesFor field added
  size : step.after.errors.size = step.before.errors.size + added.length

theorem Step.explained {step : Step ι κ} {added : List (String × String)} (hadds : step.Adds added)
    (hleaves : step.after = step.before.adding added) : step.Explained added where
  adds := hadds
  leaves := hleaves
  under field := by
    rw [hleaves]
    exact step.before.errors.under_addAll added field
  size := by
    rw [hleaves]
    exact step.before.errors.size_addAll added

/-- Every request is explained by the messages it adds. -/
theorem Request.exists_explained (backend : Backend κ ω) (repository : Repository ι κ) (world : ω)
    (request : Request ι κ) :
    let performed := request.perform backend.logged repository (world, [])
    ∃ added, Step.Explained
      ⟨request, repository, performed.1.1, performed.1.2, performed.2.2⟩ added := by
  cases request with
  | on operation record =>
      obtain ⟨added, hreports⟩ := operation.exists_reports repository record backend world
      exact ⟨added, Step.explained ⟨_, rfl, hreports⟩ hreports.leaves⟩
  | addError field message => exact ⟨_, Step.explained rfl rfl⟩
  | addDatabaseError message => exact ⟨_, Step.explained rfl rfl⟩
  | read request => exact ⟨[], Step.explained rfl rfl⟩

namespace History

/-- Each step begins with the repository as the step before has left it, but for the hooks. -/
def Chained : Repository ι κ → List (Step ι κ) → Repository ι κ → Prop
  | repository, [], final => final = repository
  | repository, step :: rest, final =>
    step.before = { repository with hooks := step.before.hooks } ∧ Chained step.after rest final

/-- Messages are added over any chain of steps that are explained. -/
theorem Chained.exists_added {start final : Repository ι κ} {steps : List (Step ι κ)}
    (h : Chained start steps final) (hexplained : ∀ step ∈ steps, ∃ added, step.Explained added) :
    ∃ added, final = { start.adding added with hooks := final.hooks } := by
  induction steps generalizing start with
  | nil => exact ⟨[], h ▸ start.adding_nil.symm⟩
  | cons step rest ih =>
      obtain ⟨hbefore, hrest⟩ := h
      obtain ⟨⟨first, hfirst⟩, hothers⟩ := List.forall_mem_cons.1 hexplained
      obtain ⟨later, hlater⟩ := ih hrest hothers
      refine ⟨first ++ later, hlater.trans ?_⟩
      rw [hfirst.leaves, hbefore, ← Repository.adding_adding]
      rfl

/-- Requests are made one after the other, and each step is explained. -/
theorem exists_steps (backend : Backend κ ω) (requests : List (Hooks ι κ × Request ι κ))
    (history : History ι κ ω) :
    let final := history.run backend requests
    ∃ steps, final.steps = history.steps ++ steps ∧ steps.map Step.made = requests ∧
      Chained history.repository steps final.repository ∧
      ∀ step ∈ steps, ∃ added, step.Explained added := by
  induction requests generalizing history with
  | nil => exact ⟨[], (List.append_nil _).symm, rfl, rfl, List.forall_mem_nil _⟩
  | cons made rest ih =>
      obtain ⟨hooks, request⟩ := made
      have hexplained := request.exists_explained backend { history.repository with hooks }
        history.world
      obtain ⟨steps, hsteps, hmade, hchained, hothers⟩ :=
        ih (history.perform backend (hooks, request))
      refine ⟨_ :: steps, hsteps.trans (List.append_assoc ..), ?_, ⟨rfl, hchained⟩,
        List.forall_mem_cons.2 ⟨hexplained, hothers⟩⟩
      exact congrArg ((hooks, request) :: ·) hmade

end History

/-- Messages only accumulate. However many requests are made to one repository, and whatever the
hooks answer each time: each of them finds the repository as the one before has left it, leaves the
messages under every name as they were with others behind them, and the number of messages grows by
the number of those. What is added explains how the request has ended. An operation that is refused
adds a message at least, one that succeeds only what the hook before saving has said while
accepting; a hook that refuses without a message is spoken for by one message, a write that the
engine rejects adds one message for it, and reading adds nothing. -/
theorem Repository.messages_of_run (backend : Backend κ ω) (repository : Repository ι κ) (world : ω)
    (requests : List (Hooks ι κ × Request ι κ)) :
    let final := (History.mk repository world []).run backend requests
    final.steps.map Step.made = requests ∧
    History.Chained repository final.steps final.repository ∧
    (∀ step ∈ final.steps, ∃ added, step.Explained added) ∧
    ∃ added, final.repository = { repository.adding added with hooks := final.repository.hooks } ∧
      (∀ field, repository.errors.under field <+: final.repository.errors.under field) ∧
      final.repository.errors.size = repository.errors.size + added.length := by
  intro final
  obtain ⟨steps, hsteps, hmade, hchained, hexplained⟩ :=
    History.exists_steps backend requests (History.mk repository world [])
  obtain rfl : final.steps = steps := hsteps
  obtain ⟨added, htotal⟩ := hchained.exists_added hexplained
  refine ⟨hmade, hchained, hexplained, added, htotal, fun field => ?_, ?_⟩
  · rw [htotal]
    exact ⟨_, (repository.errors.under_addAll added field).symm⟩
  · rw [htotal]
    exact repository.errors.size_addAll added

end RowMapper
