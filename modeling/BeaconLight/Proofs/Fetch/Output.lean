import BeaconLight.Command.Run
import BeaconLight.Proofs.Fetch
import BeaconLight.Proofs.Pool.Updates
import BeaconLight.Proofs.Record.Event
import BeaconLight.Proofs.Record.Fault
import BeaconLight.Proofs.Schema.Canonical

/-!
# What is printed

A query that does not fail was served something: a record, a list of updates, or nothing yet. What
is printed says which. Nothing yet is `null`, a record is a text that the record is read back from
as from an event, and updates are an array with such a text for each of them, in their order.
-/

namespace BeaconLight

variable {σ : Type}

/-! ### What a query is served -/

/-- What nodes serve for a query. -/
inductive Served
  /-- There is nothing yet. -/
  | nothing
  | record {kind : Kind} (x : Versioned kind)
  | updates (xs : List (Versioned .update))

namespace Served

/-- What is served by an answer that may be nothing yet. -/
def ofOption {α : Type} (serve : α → Served) : Option α → Served
  | some x => serve x
  | none => .nothing

/-- What was served as JSON. -/
def json : Served → Json
  | .nothing => .null
  | .record x => x.envelope
  | .updates xs => .array (xs.map Versioned.envelope)

/-- The text of what was served. -/
def text (served : Served) : String :=
  Json.render served.json

/-- A text says what was served: nothing yet by `null`, a record by one that it is read back from as
from an event, and updates by an array of such items, one for each in their order. -/
def PrintedAs : Served → String → Prop
  | .nothing, text => text = "null"
  | .record x, text => text ≠ "null" ∧ Versioned.ofEvent _ (Utf8.encode text.toList) = .ok x
  | .updates xs, text =>
    text ≠ "null" ∧
    ∃ items : List Json,
      text = "[" ++ ",".intercalate (items.map Json.render) ++ "]" ∧
      Json.parse (Utf8.encode text.toList) = .ok (.array items) ∧
      List.Forall₂ (fun item x => Versioned.ofEvent .update (Json.encode item) = .ok x) items xs

end Served

/-- A query asks for what it needs and is served. -/
inductive Query.IsServed (ask : Asking (StateM σ)) (spec : Spec) : Query → σ → Served → σ → Prop
  | bootstrap {blockId : String} {x : Versioned .bootstrap} {s s' : σ}
    (h : ask (.bootstrap blockId) s = (.ok x, s')) :
    IsServed ask spec (.bootstrap blockId) s (.record x) s'
  | updates {start : Option Nat} {count period : Nat} {answer : Option (List (Versioned .update))}
    {s mid s' : σ} (hstart : startPeriod ask spec start s = (.ok period, mid))
    (h : ask (.updates period count) mid = (.ok answer, s')) :
    IsServed ask spec (.updates start count) s (.ofOption .updates answer) s'
  | finalityUpdate {answer : Option (Versioned .finalityUpdate)} {s s' : σ}
    (h : ask .finalityUpdate s = (.ok answer, s')) :
    IsServed ask spec .finalityUpdate s (.ofOption .record answer) s'
  | optimisticUpdate {answer : Option (Versioned .optimisticUpdate)} {s s' : σ}
    (h : ask .optimisticUpdate s = (.ok answer, s')) :
    IsServed ask spec .optimisticUpdate s (.ofOption .record answer) s'

/-! ### The text of what was served -/

namespace Served

theorem json_ofOption {α : Type} (serve : α → Served) (answer : Option α) :
  (ofOption serve answer).json = optionalJson (fun x => (serve x).json) answer
  := by
  cases answer
  all_goals rfl

theorem text_ne_null {served : Served} {first : Char} {rest : List Char}
    (h : Json.chars served.json = first :: rest) (hfirst : first ≠ 'n') :
  served.text ≠ "null"
  := by
  intro htext
  have hchars := congrArg String.toList htext
  rw [text, Json.render, String.toList_ofList, h] at hchars
  apply hfirst (List.cons.inj hchars).1

/-- The text of an array is its items between brackets, with commas between them. -/
theorem render_array (items : List Json) :
  Json.render (.array items) = "[" ++ ",".intercalate (items.map Json.render) ++ "]"
  := by
  have hitems : (items.map Json.render).map String.toList = items.map Json.chars := by
    rw [List.map_map]
    apply List.map_congr_left
    intro item _
    apply String.toList_ofList
  apply String.toList_injective
  rw [String.toList_append, String.toList_append, String.toList_intercalate, hitems, Json.render,
    String.toList_ofList, Json.chars, Json.itemChars_eq_intercalate]
  rfl

theorem isPlain_updates (xs : List (Versioned .update)) :
  Json.IsPlain Json.maxDepth (.array (xs.map Versioned.envelope))
  := by
  apply Json.arePlain_iff.mpr
  rw [List.forall_mem_map]
  intro x _
  apply x.isPlain_envelope (by decide)

/-- The text of what was served says what was. -/
theorem printedAs_text (served : Served) :
  served.PrintedAs served.text
  := by
  cases served with
  | nothing => rfl
  | record x =>
    constructor
    · exact text_ne_null rfl (by decide)
    · rw [text, Json.encode_render]
      apply x.ofEvent_envelope
  | updates xs =>
    refine ⟨text_ne_null rfl (by decide), xs.map Versioned.envelope, render_array _, ?_, ?_⟩
    · rw [text, Json.encode_render]
      apply Json.parse_encode (isPlain_updates xs)
    · rw [List.forall₂_map_left_iff, List.forall₂_same]
      intro x _
      apply x.ofEvent_envelope

/-- An empty list of updates is printed as such. -/
theorem printedAs_updates_nil {text : String} (h : (updates []).PrintedAs text) :
  text = "[]"
  := by
  obtain ⟨-, items, rfl, -, hitems⟩ := h
  cases hitems
  rfl

end Served

/-! ### What a query prints -/

section Queries

variable {ask : Asking (StateM σ)} {spec : Spec} {query : Query} {s s' : σ} {text : String}

theorem renderAnswer_eq_ok_iff {α : Type} {write : α → Json} {answer : Except PoolError α} :
  renderAnswer write answer = .ok text ↔ ∃ x, answer = .ok x ∧ Json.render (write x) = text
  := by
  cases answer with
  | ok x => simp [renderAnswer]
  | error cause => simp [renderAnswer]

/-- A step that is rendered gives the text of its answer. -/
theorem renderAnswer_step_eq_iff {α : Type} {write : α → Json} {step : Except PoolError α × σ} :
  (renderAnswer write step.1, step.2) = (.ok text, s') ↔
    ∃ x, step = (.ok x, s') ∧ Json.render (write x) = text
  := by
  obtain ⟨answer, mid⟩ := step
  simp only [Prod.mk.injEq, renderAnswer_eq_ok_iff]
  constructor
  · rintro ⟨⟨x, rfl, htext⟩, rfl⟩
    exact ⟨x, ⟨rfl, rfl⟩, htext⟩
  · rintro ⟨x, ⟨rfl, rfl⟩, htext⟩
    exact ⟨⟨x, rfl, htext⟩, rfl⟩

theorem renderAnswer_optionalStep_eq_iff {α : Type} (serve : α → Served)
    {step : Except PoolError (Option α) × σ} :
  (renderAnswer (optionalJson fun x => (serve x).json) step.1, step.2) = (.ok text, s') ↔
    ∃ answer, step = (.ok answer, s') ∧ (Served.ofOption serve answer).text = text
  := by
  rw [renderAnswer_step_eq_iff]
  simp only [Served.text, Served.json_ofOption]

/-- A query gives a text exactly when it is served, and that is the text of what it is served. -/
theorem fetch_eq_ok_iff :
  fetch ask spec query s = (.ok text, s') ↔
    ∃ served, query.IsServed ask spec s served s' ∧ served.text = text
  := by
  cases query with
  | bootstrap blockId =>
    apply renderAnswer_step_eq_iff.trans
    constructor
    · rintro ⟨x, hanswer, htext⟩
      exact ⟨_, .bootstrap hanswer, htext⟩
    · rintro ⟨served, hserved, htext⟩
      cases hserved with
      | bootstrap hanswer => exact ⟨_, hanswer, htext⟩
  | updates start count =>
    rcases hstart : startPeriod ask spec start s with ⟨result, mid⟩
    cases result with
    | error e =>
      rw [fetch_of_no_startPeriod hstart]
      constructor
      · rintro ⟨⟩
      · rintro ⟨served, hserved, -⟩
        cases hserved with
        | updates hstart' hanswer =>
          rw [hstart] at hstart'
          cases hstart'
    | ok period =>
      rw [fetch_of_startPeriod hstart]
      apply (renderAnswer_optionalStep_eq_iff .updates).trans
      constructor
      · rintro ⟨answer, hanswer, htext⟩
        exact ⟨_, .updates hstart hanswer, htext⟩
      · rintro ⟨served, hserved, htext⟩
        cases hserved with
        | updates hstart' hanswer =>
          rw [hstart] at hstart'
          cases hstart'
          exact ⟨_, hanswer, htext⟩
  | finalityUpdate =>
    apply (renderAnswer_optionalStep_eq_iff .record).trans
    constructor
    · rintro ⟨answer, hanswer, htext⟩
      exact ⟨_, .finalityUpdate hanswer, htext⟩
    · rintro ⟨served, hserved, htext⟩
      cases hserved with
      | finalityUpdate hanswer => exact ⟨_, hanswer, htext⟩
  | optimisticUpdate =>
    apply (renderAnswer_optionalStep_eq_iff .record).trans
    constructor
    · rintro ⟨answer, hanswer, htext⟩
      exact ⟨_, .optimisticUpdate hanswer, htext⟩
    · rintro ⟨served, hserved, htext⟩
      cases hserved with
      | optimisticUpdate hanswer => exact ⟨_, hanswer, htext⟩

/-- What a query gives says what it is served. -/
theorem exists_served_of_fetch (h : fetch ask spec query s = (.ok text, s')) :
  ∃ served, query.IsServed ask spec s served s' ∧ served.PrintedAs text
  := by
  obtain ⟨served, hserved, rfl⟩ := fetch_eq_ok_iff.mp h
  exact ⟨served, hserved, served.printedAs_text⟩

/-- What was fetched is printed, and nothing else. -/
theorem conclude_eq_printed_iff {result : Except FetchError String} :
  Program.conclude result = .printed text ↔ result = .ok text
  := by
  cases result with
  | ok text' => simp [Program.conclude]
  | error e => simp [Program.conclude]

/-- The program prints exactly what its query gives under a specification that is accepted. -/
theorem execute_eq_printed_iff :
  Program.execute ask query s = (.printed text, s') ↔
    ∃ spec mid, checkSpec ask s = (.ok spec, mid) ∧ fetch ask spec query mid = (.ok text, s')
  := by
  rcases hcheck : checkSpec ask s with ⟨result, mid⟩
  cases result with
  | error e =>
    have hexecute : Program.execute ask query s = (.failed e.message, mid) :=
      StateM.bind_of_eq hcheck
    rw [hexecute]
    constructor
    · rintro ⟨⟩
    · rintro ⟨spec, mid', hspec, -⟩
      cases hspec
  | ok spec =>
    have hexecute : Program.execute ask query s
        = (Program.conclude (fetch ask spec query mid).1, (fetch ask spec query mid).2) :=
      StateM.bind_of_eq hcheck
    rw [hexecute, Prod.mk.injEq, conclude_eq_printed_iff]
    constructor
    · rintro ⟨htext, hs⟩
      exact ⟨spec, mid, rfl, Prod.ext htext hs⟩
    · rintro ⟨spec', mid', hspec, hfetch⟩
      cases hspec
      exact Prod.mk.inj hfetch

end Queries

/-- What is printed is what was served. A query that gives a text was served, and a query that is
served gives one. It is `null` exactly when there is nothing yet. Otherwise a record that was
served is read back from it as from an event, and updates are read back in their number and order
from the items of the array that it is, so no updates are an empty one. The program prints the
text that its query gives under the specification that it accepts, and no other. -/
theorem prints_what_is_served (ask : Asking (StateM σ)) (query : Query) (s : σ) :
  (∀ spec,
    (∀ text s', fetch ask spec query s = (.ok text, s') →
      ∃ served, query.IsServed ask spec s served s' ∧ served.PrintedAs text) ∧
    ∀ served s', query.IsServed ask spec s served s' →
      ∃ text, fetch ask spec query s = (.ok text, s') ∧ served.PrintedAs text) ∧
  (∀ text, (Served.updates []).PrintedAs text → text = "[]") ∧
  ∀ text s', Program.execute ask query s = (.printed text, s') ↔
    ∃ spec mid, checkSpec ask s = (.ok spec, mid) ∧ fetch ask spec query mid = (.ok text, s')
  := by
  refine ⟨?_, ?_, ?_⟩
  · intro spec
    constructor
    · intro text s' h
      apply exists_served_of_fetch h
    · intro served s' h
      exact ⟨served.text, fetch_eq_ok_iff.mpr ⟨served, h, rfl⟩, served.printedAs_text⟩
  · intro text h
    apply Served.printedAs_updates_nil h
  · intro text s'
    apply execute_eq_printed_iff

/-- Nodes that serve a finality update and two updates whose bytes are all zero, and have nothing
else yet. -/
def zeroNodes : Asking (StateM Unit) :=
  fun r s =>
    match r with
    | .spec => (.ok longPeriods, s)
    | .bootstrap _ => (.error (.cancelled .bootstrap), s)
    | .updates .. => (.ok (some [.zeroPeriod, .zeroPeriod]), s)
    | .finalityUpdate => (.ok (some .zeroFinality), s)
    | .optimisticUpdate => (.ok none, s)

/-- Their two updates are printed as such, and as an optimistic update `null`. -/
theorem prints_what_is_served_zeros :
  (∃ text, fetch zeroNodes longPeriods (.updates none 2) () = (.ok text, ()) ∧
    (Served.updates [.zeroPeriod, .zeroPeriod]).PrintedAs text) ∧
  Program.execute zeroNodes .optimisticUpdate () = (.printed "null", ())
  := by
  have hstart : startPeriod zeroNodes longPeriods none () = (.ok 0, ()) := rfl
  constructor
  · apply ((prints_what_is_served zeroNodes (.updates none 2) ()).1 longPeriods).2
    exact .updates hstart rfl
  · apply ((prints_what_is_served zeroNodes .optimisticUpdate ()).2.2 "null" ()).mpr
    exact ⟨longPeriods, (), rfl, rfl⟩

end BeaconLight
