import BeaconLight.Proofs.Chain.Fork
import BeaconLight.Proofs.Except
import BeaconLight.Response.Negotiation

/-!
# The order of the decisions

What comes of a response before its records are read is decided in steps. `ForkOutcome` says
what comes of a text as the name of a fork, `ContentOutcome` what comes of the content type and
the body, and `Outcome` puts them in order: what a later step would find is asked for only where
the earlier ones have passed. Each response has one outcome, which is the one that `negotiate`
computes.
-/

namespace BeaconLight

/-! ### Names of forks -/

/-- What comes of a text as the name of a fork. -/
inductive ForkOutcome (text : String) : Except ResponseError LightFork → Prop
  /-- The text names a fork that carries light client data. -/
  | light {fork : LightFork} (h : fork.toFork.IsNamedBy text) : ForkOutcome text (.ok fork)
  /-- The text names the first fork. -/
  | unsupported (h : Fork.phase0.IsNamedBy text) :
    ForkOutcome text (.error (.unsupportedFork .phase0))
  /-- The text names no fork. -/
  | unknown (h : ∀ fork : Fork, ¬ fork.IsNamedBy text) :
    ForkOutcome text (.error (.unknownFork text))

/-- What is read off a text is what comes of it as a name. -/
theorem forkOutcome_iff {text : String} {result : Except ResponseError LightFork} :
  ForkOutcome text result ↔ LightFork.ofText text = result
  := by
  rw [LightFork.ofText]
  constructor
  · intro h
    cases h with
    | light h =>
      rw [Fork.parse?_eq_some_iff.mpr h]
      dsimp only
      rw [LightFork.light?_toFork]
    | unsupported h =>
      rw [Fork.parse?_eq_some_iff.mpr h]
      rfl
    | unknown h => rw [Fork.parse?_eq_none_iff.mpr h]
  · rintro rfl
    cases hparse : Fork.parse? text with
    | none => exact .unknown (Fork.parse?_eq_none_iff.mp hparse)
    | some named =>
      have hnamed := Fork.parse?_eq_some_iff.mp hparse
      dsimp only
      cases hlight : named.light? with
      | none =>
        obtain rfl := Fork.light?_eq_none_iff.mp hlight
        exact .unsupported hnamed
      | some fork =>
        obtain rfl := Fork.light?_eq_some_iff.mp hlight
        exact .light hnamed

/-- Something comes of every text. -/
theorem exists_forkOutcome (text : String) :
  ∃ result, ForkOutcome text result
  := ⟨_, forkOutcome_iff.mpr rfl⟩

/-! ### Content types -/

/-- A content type names a media type, whatever its parameters, the blanks around it and the
case of its letters. -/
def NamesType (value mediaType : String) : Prop :=
  Text.lower (Text.trim (Text.before ';' value)) = mediaType

instance (value mediaType : String) : Decidable (NamesType value mediaType) :=
  inferInstanceAs (Decidable (Text.lower (Text.trim (Text.before ';' value)) = mediaType))

/-- The two media types are in lower case, so comparing with them up to letter case is
naming them. -/
theorem equalsIgnoringCase_iff_namesType {value mediaType : String}
    (h : Text.lower mediaType = mediaType) :
  Text.equalsIgnoringCase (Text.trim (Text.before ';' value)) mediaType = true ↔
    NamesType value mediaType
  := by
  rw [Text.equalsIgnoringCase, beq_iff_eq, h, NamesType]

theorem not_namesType_json {value : String} (h : NamesType value Encoding.sszType) :
  ¬ NamesType value Encoding.jsonType
  := by
  intro h'
  have htypes : Encoding.sszType = Encoding.jsonType := h.symm.trans h'
  exact absurd htypes (by decide)

namespace RawResponse

/-- The response is in SSZ. -/
def IsSsz (raw : RawResponse) : Prop :=
  ∃ value, raw.contentType = some value ∧ NamesType value Encoding.sszType

/-- The response is in JSON, as it is when it has no content type. -/
def IsJson (raw : RawResponse) : Prop :=
  ∀ value, raw.contentType = some value → NamesType value Encoding.jsonType

/-- What comes of the content type and the body of a response. -/
inductive ContentOutcome (raw : RawResponse) : Except ResponseError Content → Prop
  /-- The content type is neither of the two. -/
  | unhandledType {value : String} (h : raw.contentType = some value)
    (hssz : ¬ NamesType value Encoding.sszType) (hjson : ¬ NamesType value Encoding.jsonType) :
    ContentOutcome raw (.error (.unhandledType value))
  /-- The response is in SSZ. -/
  | ssz (h : raw.IsSsz) : ContentOutcome raw (.ok (.ssz raw.body))
  /-- The response is in JSON and its body is not. -/
  | malformed {fault : Json.Fault} (h : raw.IsJson)
    (hbody : Json.parse raw.body = .error fault) :
    ContentOutcome raw (.error (.badRecord (.malformed fault)))
  /-- The response is in JSON and its body is no object. -/
  | notObject {value : Json} (h : raw.IsJson) (hbody : Json.parse raw.body = .ok value)
    (hvalue : ∀ members, value ≠ .object members) :
    ContentOutcome raw (.error (.badRecord (.wrongType Section.root "an object")))
  /-- The response is in JSON and its body is an object. -/
  | json {members : Json.Members} (h : raw.IsJson)
    (hbody : Json.parse raw.body = .ok (.object members)) :
    ContentOutcome raw (.ok (.json members))

variable {raw : RawResponse}

theorem IsSsz.ofContentType (h : raw.IsSsz) :
  Encoding.ofContentType raw.contentType = .ok .ssz
  := by
  obtain ⟨value, hvalue, hssz⟩ := h
  rw [hvalue, Encoding.ofContentType]
  exact if_pos ((equalsIgnoringCase_iff_namesType (by decide)).mpr hssz)

/-- A response in JSON is taken for one. -/
theorem IsJson.ofContentType (h : raw.IsJson) :
  Encoding.ofContentType raw.contentType = .ok .json
  := by
  cases hvalue : raw.contentType with
  | none => rfl
  | some value =>
    have hjson := h value hvalue
    rw [Encoding.ofContentType, if_neg, if_pos]
    · exact (equalsIgnoringCase_iff_namesType (by decide)).mpr hjson
    · intro hssz
      apply not_namesType_json _ hjson
      exact (equalsIgnoringCase_iff_namesType (by decide)).mp hssz

theorem ofContentType_eq_error {value : String}
    (hssz : ¬ NamesType value Encoding.sszType) (hjson : ¬ NamesType value Encoding.jsonType) :
  Encoding.ofContentType (some value) = .error (.unhandledType value)
  := by
  rw [Encoding.ofContentType, if_neg, if_neg]
  · exact fun h => hjson ((equalsIgnoringCase_iff_namesType (by decide)).mp h)
  · exact fun h => hssz ((equalsIgnoringCase_iff_namesType (by decide)).mp h)

/-- A response is in one of the two encodings, or else its content type is neither of them. -/
theorem isSsz_or_isJson (raw : RawResponse) :
  raw.IsSsz ∨ raw.IsJson ∨ ∃ value, raw.contentType = some value ∧
    ¬ NamesType value Encoding.sszType ∧ ¬ NamesType value Encoding.jsonType
  := by
  by_cases hssz : raw.IsSsz
  · exact .inl hssz
  · by_cases hjson : raw.IsJson
    · exact .inr (.inl hjson)
    · unfold IsJson at hjson
      push Not at hjson
      obtain ⟨value, hvalue, hjson⟩ := hjson
      refine .inr (.inr ⟨value, hvalue, ?_, hjson⟩)
      intro hnames
      exact hssz ⟨value, hvalue, hnames⟩

/-- The body in its encoding is what comes of the content type and the body. -/
theorem contentOutcome_iff {result : Except ResponseError Content} :
  raw.ContentOutcome result ↔ raw.content = result
  := by
  rw [content]
  constructor
  · intro h
    cases h with
    | unhandledType h hssz hjson =>
      rw [h, ofContentType_eq_error hssz hjson]
      rfl
    | ssz h =>
      rw [h.ofContentType]
      rfl
    | malformed h hbody =>
      rw [h.ofContentType, hbody]
      rfl
    | notObject h hbody hvalue =>
      rw [h.ofContentType, hbody]
      cases ‹Json› with
      | object members => exact absurd rfl (hvalue members)
      | _ => rfl
    | json h hbody =>
      rw [h.ofContentType, hbody]
      rfl
  · rintro rfl
    rcases raw.isSsz_or_isJson with h | h | ⟨value, h, hssz, hjson⟩
    · rw [h.ofContentType]
      exact .ssz h
    · rw [h.ofContentType]
      cases hbody : Json.parse raw.body with
      | error fault => exact .malformed h hbody
      | ok value =>
        cases value with
        | object members => exact .json h hbody
        | _ =>
          apply ContentOutcome.notObject h hbody
          rintro members ⟨⟩
    · rw [h, ofContentType_eq_error hssz hjson]
      exact .unhandledType h hssz hjson

/-- Something comes of every content type and body. -/
theorem exists_contentOutcome (raw : RawResponse) :
  ∃ result, raw.ContentOutcome result
  := ⟨_, contentOutcome_iff.mpr rfl⟩

/-! ### The response -/

/-- The header names a fork that carries light client data, if there is a header. -/
def HeaderPasses (raw : RawResponse) : Prop :=
  ∀ text, raw.consensusVersion = some text → ∃ fork, ForkOutcome text (.ok fork)

/-- What comes of a response before its records are read. -/
inductive Outcome (raw : RawResponse) : Except ResponseError (LightFork × Content) → Prop
  /-- The header is refused, whatever else there is. -/
  | headerRefused {text : String} {e : ResponseError}
    (hheader : raw.consensusVersion = some text) (htext : ForkOutcome text (.error e)) :
    Outcome raw (.error e)
  /-- The content type or the body is refused, under any header that passes or none. -/
  | contentRefused {e : ResponseError} (hheader : raw.HeaderPasses)
    (hcontent : raw.ContentOutcome (.error e)) :
    Outcome raw (.error e)
  /-- The header names the fork, whatever the body names. -/
  | header {text : String} {fork : LightFork} {content : Content}
    (hheader : raw.consensusVersion = some text) (htext : ForkOutcome text (.ok fork))
    (hcontent : raw.ContentOutcome (.ok content)) :
    Outcome raw (.ok (fork, content))
  /-- There is no header and the body is in SSZ. -/
  | sszUnnamed {bytes : List UInt8} (hheader : raw.consensusVersion = none)
    (hcontent : raw.ContentOutcome (.ok (.ssz bytes))) :
    Outcome raw (.error .noFork)
  /-- There is no header and the body has no text as its version. -/
  | jsonUnnamed {members : Json.Members} (hheader : raw.consensusVersion = none)
    (hcontent : raw.ContentOutcome (.ok (.json members)))
    (hversion : ∀ text, Json.find? Response.versionField members ≠ some (.string text)) :
    Outcome raw (.error .noFork)
  /-- There is no header and what the body names is refused. -/
  | bodyRefused {members : Json.Members} {text : String} {e : ResponseError}
    (hheader : raw.consensusVersion = none)
    (hcontent : raw.ContentOutcome (.ok (.json members)))
    (hversion : Json.find? Response.versionField members = some (.string text))
    (htext : ForkOutcome text (.error e)) :
    Outcome raw (.error e)
  /-- There is no header and the body names the fork. -/
  | body {members : Json.Members} {text : String} {fork : LightFork}
    (hheader : raw.consensusVersion = none)
    (hcontent : raw.ContentOutcome (.ok (.json members)))
    (hversion : Json.find? Response.versionField members = some (.string text))
    (htext : ForkOutcome text (.ok fork)) :
    Outcome raw (.ok (fork, .json members))

theorem claimedFork_eq {text : String} (h : raw.consensusVersion = some text) :
  raw.claimedFork = (LightFork.ofText text).map some
  := by
  rw [claimedFork, h]

theorem claimedFork_eq_none (h : raw.consensusVersion = none) :
  raw.claimedFork = .ok none
  := by
  rw [claimedFork, h]

/-- A header that passes claims its fork or is absent. -/
theorem HeaderPasses.claimedFork (h : raw.HeaderPasses) :
  ∃ claimed, raw.claimedFork = .ok claimed
  := by
  cases htext : raw.consensusVersion with
  | none => exact ⟨none, claimedFork_eq_none htext⟩
  | some text =>
    obtain ⟨fork, hfork⟩ := h text htext
    refine ⟨some fork, ?_⟩
    rw [claimedFork_eq htext, forkOutcome_iff.mp hfork]
    rfl

/-- What comes of a response is what negotiation computes. -/
theorem Outcome.negotiate {result : Except ResponseError (LightFork × Content)}
    (h : raw.Outcome result) :
  raw.negotiate = result
  := by
  unfold RawResponse.negotiate
  cases h with
  | headerRefused hheader htext =>
    rw [claimedFork_eq hheader, forkOutcome_iff.mp htext]
    rfl
  | contentRefused hheader hcontent =>
    obtain ⟨claimed, hclaimed⟩ := hheader.claimedFork
    rw [hclaimed, contentOutcome_iff.mp hcontent]
    rfl
  | header hheader htext hcontent =>
    rw [claimedFork_eq hheader, forkOutcome_iff.mp htext, contentOutcome_iff.mp hcontent]
    rfl
  | sszUnnamed hheader hcontent =>
    rw [claimedFork_eq_none hheader, contentOutcome_iff.mp hcontent]
    rfl
  | @jsonUnnamed members hheader hcontent hversion =>
    rw [claimedFork_eq_none hheader, contentOutcome_iff.mp hcontent]
    have hfork : (Content.json members).fork = .error .noFork := by
      rw [Content.fork]
      split
      · exact absurd ‹_› (hversion _)
      · rfl
    simp only [bind, Except.bind, hfork]
  | @bodyRefused members text e hheader hcontent hversion htext =>
    rw [claimedFork_eq_none hheader, contentOutcome_iff.mp hcontent]
    have hfork : (Content.json members).fork = .error e := by
      rw [Content.fork, hversion]
      exact forkOutcome_iff.mp htext
    simp only [bind, Except.bind, hfork]
  | @body members text fork hheader hcontent hversion htext =>
    rw [claimedFork_eq_none hheader, contentOutcome_iff.mp hcontent]
    have hfork : (Content.json members).fork = .ok fork := by
      rw [Content.fork, hversion]
      exact forkOutcome_iff.mp htext
    simp only [bind, Except.bind, hfork]
    rfl

/-- Something comes of every response. -/
theorem exists_outcome (raw : RawResponse) :
  ∃ result, raw.Outcome result
  := by
  obtain ⟨content, hcontent⟩ := raw.exists_contentOutcome
  cases hheader : raw.consensusVersion with
  | some text =>
    obtain ⟨named, htext⟩ := exists_forkOutcome text
    cases named with
    | error e => exact ⟨_, .headerRefused hheader htext⟩
    | ok fork =>
      cases content with
      | ok content => exact ⟨_, .header hheader htext hcontent⟩
      | error e =>
        refine ⟨_, .contentRefused ?_ hcontent⟩
        intro text' htext'
        obtain rfl := Option.some.inj (hheader.symm.trans htext')
        exact ⟨fork, htext⟩
  | none =>
    cases content with
    | error e =>
      refine ⟨_, .contentRefused ?_ hcontent⟩
      intro text htext
      cases hheader.symm.trans htext
    | ok content =>
      cases content with
      | ssz bytes => exact ⟨_, .sszUnnamed hheader hcontent⟩
      | json members =>
        by_cases hversion : ∃ text,
            Json.find? Response.versionField members = some (.string text)
        · obtain ⟨text, hversion⟩ := hversion
          obtain ⟨named, htext⟩ := exists_forkOutcome text
          cases named with
          | error e => exact ⟨_, .bodyRefused hheader hcontent hversion htext⟩
          | ok fork => exact ⟨_, .body hheader hcontent hversion htext⟩
        · exact ⟨_, .jsonUnnamed hheader hcontent (not_exists.mp hversion)⟩

/-- Negotiation computes what comes of a response. -/
theorem outcome_iff {result : Except ResponseError (LightFork × Content)} :
  raw.Outcome result ↔ raw.negotiate = result
  := by
  constructor
  · apply Outcome.negotiate
  · rintro rfl
    obtain ⟨result, h⟩ := raw.exists_outcome
    rw [h.negotiate]
    apply h

end RawResponse

end BeaconLight
