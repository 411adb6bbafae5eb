import HadithService.Program
import HadithService.Proofs.Text.Blank
import Mathlib.Tactic.Use

/-!
# Keys that do not show

Of a key nothing shows but whether it is set and, for the key of the model, whether it has a form
that is accepted.  Environments that differ in no more than that lead to the same error or to
settings that look the same, in JSON, for the eye, in what is warned of and in the log
(`Settings.looks_alike`).
-/

namespace HadithService.Settings

variable {lookup lookup' : String → Option String} {name : String}

/-- The variables that hold keys. -/
def keyVariables : List String :=
  ["OPENAI_API_KEY", "SUNNAH_API_KEY"]

/-- A variable is set to something that is not blank. -/
def IsSet (lookup : String → Option String) (name : String) : Prop :=
  ∃ value, lookup name = some value ∧ Text.isBlankText value = false

/-- A key of the form that is accepted for the model: of ten bytes at least, and with no space. -/
def IsAccepted (key : String) : Prop :=
  10 ≤ key.utf8ByteSize ∧ ' ' ∉ key.toList

/-- The key of the model is set and has, without the blanks around it, a form that is accepted. -/
def HasAcceptedKey (lookup : String → Option String) : Prop :=
  ∃ value, lookup "OPENAI_API_KEY" = some value ∧ IsAccepted (Text.trim value)

/-- Two environments differ in nothing but what the keys are: the same keys are set, and the key of
the model has an accepted form in both or in neither. -/
structure SameBesidesKeys (lookup lookup' : String → Option String) : Prop where
  others : ∀ name ∉ keyVariables, lookup name = lookup' name
  set : ∀ name ∈ keyVariables, IsSet lookup name ↔ IsSet lookup' name
  accepted : HasAcceptedKey lookup ↔ HasAcceptedKey lookup'

/-! ### What is given -/

theorem given?_congr (h : lookup name = lookup' name) :
  given? lookup name = given? lookup' name
  := by
  rw [given?, given?, h]

theorem isSome_given?_iff :
  (given? lookup name).isSome = true ↔ IsSet lookup name
  := by
  rw [given?, Option.isSome_map, IsSet]
  cases lookup name with
  | none => simp
  | some value => simp [Text.unlessBlank]

theorem number_congr (h : lookup name = lookup' name) (bound default : Nat) :
  number lookup name bound default = number lookup' name bound default
  := by
  rw [number, number, given?_congr h]

theorem isSoundKey_iff {key : String} :
  isSoundKey key = true ↔ IsAccepted key
  := by
  simp [isSoundKey, IsAccepted]

/-- Nothing that is blank is accepted. -/
theorem any_isSoundKey_iff :
  (given? lookup "OPENAI_API_KEY").any isSoundKey = true ↔ HasAcceptedKey lookup
  := by
  rw [given?, HasAcceptedKey]
  cases lookup "OPENAI_API_KEY" with
  | none => simp
  | some value =>
    by_cases hblank : Text.isBlankText value = true
    · have hempty : Text.trim value = "" := Text.isBlankText_iff.mp hblank
      simp [Text.unlessBlank, hblank, IsAccepted, hempty]
    · simp [Text.unlessBlank, hblank, isSoundKey_iff]

/-! ### What shows -/

/-- Settings of which nothing is left of the keys but whether there are any. -/
def redacted (s : Settings) : Settings :=
  { s with
    ai := { s.ai with apiKey := s.ai.apiKey.map fun _ => "" }
    upstream := { s.upstream with sunnahApiKey := s.upstream.sunnahApiKey.map fun _ => "" } }

/-- All that is left of a key that is hidden is whether there is one. -/
theorem map_hidden_eq_iff {key key' : Option String} :
  (key.map fun _ => "") = (key'.map fun _ => "") ↔ key.isSome = key'.isSome
  := by
  cases key with
  | none => cases key' with
    | none => simp
    | some key' => simp
  | some key => cases key' with
    | none => simp
    | some key' => simp

theorem toJson_redacted (s : Settings) :
  s.redacted.toJson = s.toJson
  := rfl

theorem shownKey_redacted (key : Option String) :
  shownKey (key.map fun _ => "") = shownKey key
  := by
  cases key with
  | none => rfl
  | some key => rfl

theorem shown_redacted (s : Settings) :
  s.redacted.shown = s.shown
  := by
  simp only [shown, redacted, shownKey_redacted]
  rfl

/-- Settings that look the same: in JSON, for the eye, in what is warned of and in the log of a run
without requests. -/
structure LooksAlike (s s' : Settings) : Prop where
  json : s.toJson.render = s'.toJson.render
  shown : s.shown = s'.shown
  warnings : s.warnings = s'.warnings
  log : Program.quietRun s = Program.quietRun s'

variable {s s' : Settings}

theorem warnings_congr (hredacted : s.redacted = s'.redacted)
    (hsound : s.ai.apiKey.any isSoundKey = s'.ai.apiKey.any isSoundKey) :
  s.warnings = s'.warnings
  := by
  have hkey : s.ai.apiKey.isSome = s'.ai.apiKey.isSome :=
    map_hidden_eq_iff.mp (congrArg (fun s => s.ai.apiKey) hredacted)
  have hlegacy : s.upstream.sunnahApiKey.isSome = s'.upstream.sunnahApiKey.isSome :=
    map_hidden_eq_iff.mp (congrArg (fun s => s.upstream.sunnahApiKey) hredacted)
  rw [warnings, warnings, hlegacy]
  cases hmodel : s.ai.apiKey with
  | none =>
    have hnone : s'.ai.apiKey = none := by simpa [hmodel] using hkey.symm
    rw [hnone]
  | some key =>
    obtain ⟨key', hkey'⟩ : ∃ key', s'.ai.apiKey = some key' := by
      simpa [hmodel, Option.isSome_iff_exists] using hkey.symm
    rw [hmodel, hkey', Option.any_some, Option.any_some] at hsound
    simp only [hkey', hsound]

/-- Settings look the same when they are the same but for the keys, there are keys in both or in
neither, and that of the model is accepted in both or in neither. -/
theorem LooksAlike.of_redacted (hredacted : s.redacted = s'.redacted)
    (hsound : s.ai.apiKey.any isSoundKey = s'.ai.apiKey.any isSoundKey) :
  s.LooksAlike s'
  := by
  have hserver : s.server = s'.server := congrArg (fun s => s.server) hredacted
  have hjson : s.toJson = s'.toJson := by rw [← toJson_redacted, hredacted, toJson_redacted]
  have hwarnings := warnings_congr hredacted hsound
  constructor
  case json => rw [hjson]
  case shown => rw [← shown_redacted, hredacted, shown_redacted]
  case warnings => apply hwarnings
  case log =>
    simp only [Program.quietRun, Program.startEntries, Program.listening, Program.address,
      hwarnings, hjson, hserver]

/-! ### Environments -/

theorem numbers_congr
    (h : ∀ name ∈ ["PORT", "CHAT_RATE_LIMIT", "EXPLAIN_RATE_LIMIT", "CACHE_TTL_SECS"],
      lookup name = lookup' name) :
  numbers lookup = numbers lookup'
  := by
  have hnumber := fun name hname => number_congr (h name hname)
  simp only [numbers, hnumber "PORT" (by simp), hnumber "CHAT_RATE_LIMIT" (by simp),
    hnumber "EXPLAIN_RATE_LIMIT" (by simp), hnumber "CACHE_TTL_SECS" (by simp)]

theorem SameBesidesKeys.given?_redacted (h : SameBesidesKeys lookup lookup')
    (hname : name ∈ keyVariables) :
  ((given? lookup name).map fun _ => "") = (given? lookup' name).map fun _ => ""
  := by
  rw [map_hidden_eq_iff, Bool.eq_iff_iff, isSome_given?_iff, isSome_given?_iff, h.set name hname]

/-- But for what the keys are, the environments make the same settings. -/
theorem SameBesidesKeys.redacted_made (h : SameBesidesKeys lookup lookup') (n : Numbers) :
  (made (given? lookup) n).redacted = (made (given? lookup') n).redacted
  := by
  have hgiven : ∀ name ∉ keyVariables, given? lookup name = given? lookup' name :=
    fun name hname => given?_congr (h.others name hname)
  have hkeys := fun name hname => h.given?_redacted (show name ∈ keyVariables from hname)
  simp only [made, redacted, hkeys "OPENAI_API_KEY" (by decide), hkeys "SUNNAH_API_KEY" (by decide),
    hgiven "NEXT_PUBLIC_API_BASE" (by decide), hgiven "LOG_FORMAT" (by decide),
    hgiven "OPENAI_BASE_URL" (by decide), hgiven "OPENAI_MODEL" (by decide),
    hgiven "HADITH_API_BASE" (by decide)]

theorem SameBesidesKeys.any_isSoundKey (h : SameBesidesKeys lookup lookup') :
  (given? lookup "OPENAI_API_KEY").any isSoundKey
    = (given? lookup' "OPENAI_API_KEY").any isSoundKey
  := by
  rw [Bool.eq_iff_iff, any_isSoundKey_iff, any_isSoundKey_iff, h.accepted]

/-- Environments that differ in nothing but what their keys are either make no settings, for the
same reason, or settings that look alike. -/
theorem looks_alike (h : SameBesidesKeys lookup lookup') :
  (∃ e, ofEnvironment lookup = .error e ∧ ofEnvironment lookup' = .error e) ∨
    ∃ s s', ofEnvironment lookup = .ok s ∧ ofEnvironment lookup' = .ok s' ∧ s.LooksAlike s'
  := by
  have hnumbers : numbers lookup = numbers lookup' := by
    apply numbers_congr
    intro name hname
    apply h.others
    revert name
    decide
  rw [ofEnvironment, ofEnvironment, hnumbers]
  cases numbers lookup' with
  | error e =>
    left
    use e, rfl
    rfl
  | ok n =>
    right
    use made (given? lookup) n, made (given? lookup') n, rfl, rfl
    apply LooksAlike.of_redacted (h.redacted_made n) h.any_isSoundKey

/-- An environment with two keys. -/
def withKeys (modelKey legacyKey : String) (name : String) : Option String :=
  if name = "OPENAI_API_KEY" then some modelKey
  else if name = "SUNNAH_API_KEY" then some legacyKey
  else if name = "PORT" then some " 8080 "
  else none

theorem looks_alike_renewed :
  given? (withKeys " sk-test-0123456789 " "legacy") "OPENAI_API_KEY"
      ≠ given? (withKeys "another-secret" "x") "OPENAI_API_KEY" ∧
    ∃ s s', ofEnvironment (withKeys " sk-test-0123456789 " "legacy") = .ok s ∧
      ofEnvironment (withKeys "another-secret" "x") = .ok s' ∧ s.LooksAlike s'
  := by
  have hsame : SameBesidesKeys (withKeys " sk-test-0123456789 " "legacy")
      (withKeys "another-secret" "x") := by
    constructor
    case others =>
      intro name hname
      simp only [keyVariables, List.mem_cons, List.not_mem_nil, or_false, not_or] at hname
      simp only [withKeys, hname.1, hname.2, if_false]
    case set =>
      intro name hname
      rw [← isSome_given?_iff, ← isSome_given?_iff]
      revert name
      decide +kernel
    case accepted =>
      rw [← any_isSoundKey_iff, ← any_isSoundKey_iff]
      decide +kernel
  constructor
  · decide +kernel
  · rcases looks_alike hsame with ⟨e, he, -⟩ | halike
    · have hmade : (ofEnvironment (withKeys " sk-test-0123456789 " "legacy")).isOk = true := by
        decide +kernel
      rw [he] at hmade
      cases hmade
    · apply halike

end HadithService.Settings
