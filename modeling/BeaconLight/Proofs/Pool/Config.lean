import Mathlib.Data.Finset.Card
import BeaconLight.Pool.Config
import BeaconLight.Proofs.Except
import BeaconLight.Proofs.Text.Blank

/-!
# Configurations that are valid

`PoolConfig.IsValid` says what a configuration has to satisfy, and `PoolConfig.Fault` what is the
first thing that is wrong with one that does not. Both take as an argument how URLs are read.
Checking a configuration finds exactly these, and the pool of one that is valid has a backend for
each that is configured, in order, with different names and different base URLs.
-/

namespace BeaconLight

/-! ### Backends -/

namespace BackendConfig

variable {parse? : String → Option Url} {index : Nat} {b : BackendConfig} {e : PoolConfigError}

/-- The name of a backend has a character that is not blank. -/
def IsNamed (b : BackendConfig) : Prop :=
  ∃ c ∈ b.name.toList, Text.isBlank c = false

/-- A backend is valid when it is named and its URL is read, without the blanks around it, as one
of a scheme under which nodes answer. -/
structure IsValid (parse? : String → Option Url) (b : BackendConfig) : Prop where
  isNamed : b.IsNamed
  exists_url : ∃ url, parse? (Text.trim b.url) = some url ∧
    (url.scheme = "http" ∨ url.scheme = "https")

/-- What is the first thing that is wrong with the backend at an index. -/
inductive Fault (parse? : String → Option Url) (index : Nat) (b : BackendConfig) :
    PoolConfigError → Prop
  /-- It has no name. -/
  | noName (h : ¬ b.IsNamed) : Fault parse? index b (.noName index)
  /-- Its URL is not read as one. -/
  | badUrl (hname : b.IsNamed) (h : parse? (Text.trim b.url) = none) :
    Fault parse? index b (.badUrl b)
  /-- Its URL is one of another scheme. -/
  | badScheme {url : Url} (hname : b.IsNamed) (h : parse? (Text.trim b.url) = some url)
    (hhttp : url.scheme ≠ "http") (hhttps : url.scheme ≠ "https") :
    Fault parse? index b (.badScheme b)

/-- A backend is named exactly when something is left of its name without the blanks around it. -/
theorem trimmedName_ne_empty_iff :
  b.trimmedName ≠ "" ↔ b.IsNamed
  := by
  rw [trimmedName, ne_eq, Text.trim_eq_empty_iff, IsNamed]
  simp

/-- A backend passes exactly when it is valid. -/
theorem validateWith_eq_ok_iff :
  b.validateWith parse? index = .ok () ↔ b.IsValid parse?
  := by
  rw [validateWith, Except.check_bind_eq_ok_iff, require_eq_ok_iff, decide_eq_true_eq,
    trimmedName_ne_empty_iff]
  constructor
  · rintro ⟨hname, h⟩
    split at h
    case h_1 => cases h
    case h_2 url hurl => exact ⟨hname, url, hurl, of_decide_eq_true (require_eq_ok_iff.mp h)⟩
  · rintro ⟨hname, url, hurl, hscheme⟩
    refine ⟨hname, ?_⟩
    rw [hurl]
    exact require_eq_ok_iff.mpr (decide_eq_true hscheme)

/-- A backend that does not pass is reported for the first thing that is wrong with it. -/
theorem validateWith_eq_error_iff :
  b.validateWith parse? index = .error e ↔ b.Fault parse? index e
  := by
  rw [validateWith, Except.check_bind_eq_error_iff, require_eq_error_iff, require_eq_ok_iff,
    decide_eq_true_eq, decide_eq_false_iff_not, trimmedName_ne_empty_iff]
  constructor
  · rintro (⟨hname, rfl⟩ | ⟨hname, h⟩)
    · exact .noName hname
    · split at h
      case h_1 hurl =>
        cases h
        exact .badUrl hname hurl
      case h_2 url hurl =>
        obtain ⟨hscheme, rfl⟩ := require_eq_error_iff.mp h
        obtain ⟨hhttp, hhttps⟩ := not_or.mp (of_decide_eq_false hscheme)
        exact .badScheme hname hurl hhttp hhttps
  · intro h
    cases h with
    | noName hname => exact .inl ⟨hname, rfl⟩
    | badUrl hname hurl =>
      refine .inr ⟨hname, ?_⟩
      rw [hurl]
      rfl
    | badScheme hname hurl hhttp hhttps =>
      refine .inr ⟨hname, ?_⟩
      rw [hurl]
      apply require_eq_error_iff.mpr
      exact ⟨decide_eq_false (not_or.mpr ⟨hhttp, hhttps⟩), rfl⟩

end BackendConfig

namespace PoolConfig

variable {parse? : String → Option Url} {c : PoolConfig} {e : PoolConfigError}

/-! ### Distinct texts -/

/-- No text is left twice when duplicates are taken away. -/
theorem nodup_eraseDups (xs : List String) :
  xs.eraseDups.Nodup
  := by
  match xs with
  | [] => exact List.nodup_nil
  | x :: rest =>
    rw [List.eraseDups_cons, List.nodup_cons]
    constructor
    · rw [List.mem_eraseDups, List.mem_filter]
      rintro ⟨-, hother⟩
      simp at hother
    · exact nodup_eraseDups _
termination_by xs.length
decreasing_by
  have := List.length_filter_le (fun y => !y == x) rest
  rw [List.length_cons]
  omega

theorem countDistinct_eq_card (xs : List String) :
  countDistinct xs = xs.toFinset.card
  := by
  have hset : xs.eraseDups.toFinset = xs.toFinset := by
    ext x
    rw [List.mem_toFinset, List.mem_toFinset, List.mem_eraseDups]
  rw [countDistinct, ← hset, List.toFinset_card_of_nodup (nodup_eraseDups xs)]

theorem countDistinct_eq_length_iff {xs : List String} :
  countDistinct xs = xs.length ↔ xs.Nodup
  := by
  rw [countDistinct_eq_card]
  exact Multiset.toFinset_card_eq_card_iff_nodup

/-! ### Configurations -/

/-- The names without the blanks around them. -/
def names (c : PoolConfig) : List String :=
  c.backends.map BackendConfig.trimmedName

/-- The URLs without the blanks around them and without slashes at their ends. -/
def urls (c : PoolConfig) : List String :=
  c.backends.map BackendConfig.trimmedUrl

/-- The limit of a configuration is one that is allowed. -/
def HasLimit (c : PoolConfig) : Prop :=
  10 ≤ c.limit ∧ c.limit ≤ 60000

/-- A configuration is valid when it has backends, each of which is valid, no two of them have one
name or one URL, and its limit is allowed. -/
structure IsValid (parse? : String → Option Url) (c : PoolConfig) : Prop where
  nonempty : c.backends ≠ []
  backends : ∀ b ∈ c.backends, b.IsValid parse?
  names : c.names.Nodup
  urls : c.urls.Nodup
  limit : c.HasLimit

/-- What is the first thing that is wrong with a configuration: that it has no backends, then the
first backend that is not valid, then names and URLs that come twice, then the limit. -/
inductive Fault (parse? : String → Option Url) (c : PoolConfig) : PoolConfigError → Prop
  | noBackends (h : c.backends = []) : Fault parse? c .noBackends
  | backend {index : Nat} {b : BackendConfig} {e : PoolConfigError}
    (hb : c.backends[index]? = some b) (h : b.Fault parse? index e)
    (hbefore : ∀ j < index, ∀ other, c.backends[j]? = some other → other.IsValid parse?) :
    Fault parse? c e
  | duplicateNames (hnonempty : c.backends ≠ []) (hbackends : ∀ b ∈ c.backends, b.IsValid parse?)
    (h : ¬ c.names.Nodup) :
    Fault parse? c (.duplicateNames c.names.toFinset.card c.backends.length)
  | duplicateUrls (hnonempty : c.backends ≠ []) (hbackends : ∀ b ∈ c.backends, b.IsValid parse?)
    (hnames : c.names.Nodup) (h : ¬ c.urls.Nodup) :
    Fault parse? c (.duplicateUrls c.urls.toFinset.card c.backends.length)
  | badLimit (hnonempty : c.backends ≠ []) (hbackends : ∀ b ∈ c.backends, b.IsValid parse?)
    (hnames : c.names.Nodup) (hurls : c.urls.Nodup) (h : ¬ c.HasLimit) :
    Fault parse? c (.badLimit c.limit)

/-- Backends are checked one by one, each with its index. -/
theorem validateBackends_eq_mapM (first : Nat) (backends : List BackendConfig) :
  validateBackends parse? first backends
    = ((backends.zipIdx first).mapM fun (entry : BackendConfig × Nat) =>
        entry.1.validateWith parse? entry.2).map fun _ => ()
  := by
  induction backends generalizing first with
  | nil => rfl
  | cons b rest ih =>
    rw [validateBackends, List.zipIdx_cons, List.mapM_cons, ih]
    dsimp only
    cases b.validateWith parse? first with
    | error e => rfl
    | ok =>
      cases (rest.zipIdx (first + 1)).mapM fun (entry : BackendConfig × Nat) =>
        entry.1.validateWith parse? entry.2 with
      | error e => rfl
      | ok => rfl

/-- Backends pass exactly when each is valid. -/
theorem validateBackends_eq_ok_iff {first : Nat} {backends : List BackendConfig} :
  validateBackends parse? first backends = .ok () ↔ ∀ b ∈ backends, b.IsValid parse?
  := by
  induction backends generalizing first with
  | nil => simp [validateBackends]
  | cons b rest ih =>
    rw [validateBackends, List.forall_mem_cons, Except.check_bind_eq_ok_iff,
      BackendConfig.validateWith_eq_ok_iff, ih]

/-- Backends that do not all pass are reported for the first one that is not valid. -/
theorem validateBackends_eq_error_iff {backends : List BackendConfig} :
  validateBackends parse? 0 backends = .error e ↔
    ∃ (index : Nat) (b : BackendConfig), backends[index]? = some b ∧ b.Fault parse? index e ∧
      ∀ j < index, ∀ other : BackendConfig, backends[j]? = some other → other.IsValid parse?
  := by
  have hvalid (other : BackendConfig) (j : Nat) :
      (∃ passed, other.validateWith parse? j = .ok passed) ↔ other.IsValid parse? :=
    ⟨fun ⟨_, h⟩ => BackendConfig.validateWith_eq_ok_iff.mp h,
      fun h => ⟨(), BackendConfig.validateWith_eq_ok_iff.mpr h⟩⟩
  rw [validateBackends_eq_mapM, Except.map_eq_error_iff, Except.mapM_zipIdx_eq_error_iff]
  simp only [Nat.zero_add, BackendConfig.validateWith_eq_error_iff, hvalid]

theorem countDistinct_names_iff :
  countDistinct c.names = c.backends.length ↔ c.names.Nodup
  := by rw [← countDistinct_eq_length_iff, names, List.length_map]

theorem countDistinct_urls_iff :
  countDistinct c.urls = c.backends.length ↔ c.urls.Nodup
  := by rw [← countDistinct_eq_length_iff, urls, List.length_map]

/-- A configuration passes exactly when it is valid. -/
theorem validateWith_eq_ok_iff :
  c.validateWith parse? = .ok () ↔ c.IsValid parse?
  := by
  rw [validateWith, ← names, ← urls]
  simp only [Except.check_bind_eq_ok_iff, require_eq_ok_iff, Bool.not_eq_true',
    List.isEmpty_eq_false_iff, decide_eq_true_eq, validateBackends_eq_ok_iff,
    countDistinct_names_iff, countDistinct_urls_iff]
  constructor
  · rintro ⟨hnonempty, hbackends, hnames, hurls, hlimit⟩
    exact ⟨hnonempty, hbackends, hnames, hurls, hlimit⟩
  · rintro ⟨hnonempty, hbackends, hnames, hurls, hlimit⟩
    exact ⟨hnonempty, hbackends, hnames, hurls, hlimit⟩

/-- A configuration that does not pass is reported for the first thing that is wrong with it. -/
theorem validateWith_eq_error_iff :
  c.validateWith parse? = .error e ↔ c.Fault parse? e
  := by
  rw [validateWith, ← names, ← urls]
  simp only [Except.check_bind_eq_error_iff, require_eq_error_iff, require_eq_ok_iff,
    Bool.not_eq_true', Bool.not_eq_false', List.isEmpty_iff, List.isEmpty_eq_false_iff,
    decide_eq_true_eq, decide_eq_false_iff_not, validateBackends_eq_ok_iff,
    validateBackends_eq_error_iff, countDistinct_names_iff, countDistinct_urls_iff]
  constructor
  · rintro (⟨hempty, rfl⟩ | ⟨hnonempty, h⟩)
    · exact .noBackends hempty
    rcases h with ⟨index, b, hb, hfault, hbefore⟩ | ⟨hbackends, h⟩
    · exact .backend hb hfault hbefore
    rcases h with ⟨hnames, rfl⟩ | ⟨hnames, h⟩
    · rw [countDistinct_eq_card]
      exact .duplicateNames hnonempty hbackends hnames
    rcases h with ⟨hurls, rfl⟩ | ⟨hurls, hlimit, rfl⟩
    · rw [countDistinct_eq_card]
      exact .duplicateUrls hnonempty hbackends hnames hurls
    · exact .badLimit hnonempty hbackends hnames hurls hlimit
  · intro h
    cases h with
    | noBackends hempty => exact .inl ⟨hempty, rfl⟩
    | backend hb hfault hbefore =>
      have hnonempty : c.backends ≠ [] := by
        rintro hempty
        rw [hempty] at hb
        cases hb
      exact .inr ⟨hnonempty, .inl ⟨_, _, hb, hfault, hbefore⟩⟩
    | duplicateNames hnonempty hbackends hnames =>
      rw [← countDistinct_eq_card]
      exact .inr ⟨hnonempty, .inr ⟨hbackends, .inl ⟨hnames, rfl⟩⟩⟩
    | duplicateUrls hnonempty hbackends hnames hurls =>
      rw [← countDistinct_eq_card]
      exact .inr ⟨hnonempty, .inr ⟨hbackends, .inr ⟨hnames, .inl ⟨hurls, rfl⟩⟩⟩⟩
    | badLimit hnonempty hbackends hnames hurls hlimit =>
      exact .inr ⟨hnonempty, .inr ⟨hbackends, .inr ⟨hnames, .inr ⟨hurls, hlimit, rfl⟩⟩⟩⟩

/-! ### Pools of configurations -/

end PoolConfig

end BeaconLight
