import HadithService.Proofs.Json.Structures
import HadithService.Proofs.Json.Tokens
import HadithService.Proofs.Service.Quotas
import HadithService.Service.Bodies

/-!
# Hadiths and questions in bodies

A request for an explanation in JSON wants a hadith explained exactly if the first value in its body
gives one (`Appeal.explanation?_eq_some_iff`); the model is asked for no other one
(`Service.explains_wanted`).  What is read of a request that asks a question is what the first value
in its body gives (`Input.Chat.ofBody_eq_ok_iff`).
-/

namespace HadithService

/-- The first value in a text is read exactly if some start of the text spells what can be read, as
long as only lists and objects can. -/
theorem Draft.leading?_bind_eq_some_iff {α : Type} {read : Draft → Option α} {a : α}
    {text : List Symbol} (hnested : ∀ d, read d = some a → d.isNested) :
  (leading? text).bind read = some a ↔
    ∃ value rest d, text = value ++ rest ∧ Spells value d ∧ read d = some a
  := by
  rw [Option.bind_eq_some_iff]
  constructor
  · rintro ⟨d, hleading, hread⟩
    obtain ⟨value, rest, htext, hspells⟩ := (leading?_eq_some_iff (hnested d hread)).mp hleading
    exact ⟨value, rest, d, htext, hspells, hread⟩
  · rintro ⟨value, rest, d, htext, hspells, hread⟩
    use d, (leading?_eq_some_iff (hnested d hread)).mpr ⟨value, rest, htext, hspells⟩

/-- What is read of a request is what is read of the first value in its body, if the request is in
JSON and its body is not too long. -/
theorem Input.ofBody_eq_ok_iff {r : Http.Request} {α : Type} {d : Decoder α} {value : α} :
  ofBody d r = .ok value ↔
    (Http.shownHeader? r.headers "content-type").any Http.MediaType.isJson = true ∧
      r.body.length ≤ bodyLimit ∧ (Draft.leading? (Symbol.ofBytes r.body)).bind d.run = some value
  := by
  rw [ofBody]
  cases (Http.shownHeader? r.headers "content-type").any Http.MediaType.isJson with
  | false => simp
  | true =>
    rw [Bool.not_true, if_neg Bool.false_ne_true]
    split
    case isTrue hlong => simp [Nat.not_le.mpr hlong]
    case isFalse hshort =>
      cases (Draft.leading? (Symbol.ofBytes r.body)).bind d.run with
      | none => simp
      | some a => simp [Nat.not_lt.mp hshort]

/-! ### Hadiths -/

namespace Input.Explain

variable {text : String} {d : Draft}

theorem fields_eq_some_iff (f : Fields) :
  (do
    let text ← f.optional "text" Decoder.text
    return (⟨text⟩ : Explain)) = some ⟨some text⟩ ↔ f.find "text" = some (.string (some text))
  := by
  simp [Option.bind_eq_some_iff, Decoder.optional_text_eq_some_iff]

/-- A text is read in a draft exactly if the draft gives it. -/
theorem run_decoder_eq_some_iff :
  decoder.run d = some ⟨some text⟩ ↔ Gives text d
  := by
  rw [Decoder.run, decoder, Draft.maxLevels, Decoder.structured_eq_some_iff]
  simp only [fields_eq_some_iff]
  constructor
  · rintro (⟨members, rfl, hsingle, hread⟩ | ⟨items, rfl, hlength, hread⟩)
    · exact .object ((Fields.find_eq_some_iff (by simp) (hsingle _ (by simp))).mp hread)
    · match items, hlength with
      | [], _ => cases hread
      | [d], _ =>
        obtain rfl := Option.some.inj hread
        exact .list
  · intro h
    cases h with
    | @object members hvalue =>
      have hsingle : (Draft.valuesOf members "text").length ≤ 1 := by simp [hvalue]
      refine .inl ⟨members, rfl, by simpa using hsingle, ?_⟩
      apply (Fields.find_eq_some_iff (by simp) hsingle).mpr hvalue
    | list => exact .inr ⟨_, rfl, Nat.le_refl 1, rfl⟩

theorem Gives.isNested (h : Gives text d) :
  d.isNested
  := by
  cases h with
  | object h => rfl
  | list => rfl

/-- A text is read in a body exactly if the first value in the body gives it. -/
theorem read_eq_some_iff {body : List UInt8} :
  (Draft.leading? (Symbol.ofBytes body)).bind decoder.run = some ⟨some text⟩ ↔ Begins text body
  := by
  have hnested : ∀ d, decoder.run d = some ⟨some text⟩ → d.isNested :=
    fun d hread => (run_decoder_eq_some_iff.mp hread).isNested
  rw [Draft.leading?_bind_eq_some_iff hnested]
  simp only [run_decoder_eq_some_iff, Begins]

end Input.Explain

/-! ### Questions -/

namespace Input

variable {α : Type} {stands : Draft → α → Prop} {values : List Draft} {a? : Option α}

theorem Given.length_le (h : Given stands values a?) :
  values.length ≤ 1
  := by
  cases h with
  | missing => apply Nat.zero_le
  | null => apply Nat.le_refl
  | value => apply Nat.le_refl

/-- What is read of a field that may be null. -/
theorem optional_eq_some_iff {f : Fields} {name : String} {d : Decoder α} :
  f.optional name d = some a? ↔
    Given (fun v a => d f.levels v = some a) (f.find name).toList a?
  := by
  rw [Fields.optional, Fields.withDefault]
  cases f.find name with
  | none =>
    constructor
    · rintro ⟨⟩
      exact .missing
    · rintro ⟨⟩
      rfl
  | some v =>
    by_cases hnull : v = .null
    · subst hnull
      constructor
      · rintro ⟨⟩
        exact .null
      · intro h
        cases h with
        | null => rfl
        | value hnull => cases hnull rfl
    · have hvalue : d.nullable f.levels v = (d f.levels v).map some := by
        cases v with
        | null => cases hnull rfl
        | _ => rfl
      simp only [hvalue, Option.map_eq_some_iff]
      constructor
      · rintro ⟨a, hread, rfl⟩
        exact .value hnull hread
      · intro h
        cases h with
        | null => cases hnull rfl
        | value hnull hread => exact ⟨_, hread, rfl⟩

namespace Chat

variable {input : Chat} {d : Draft} {r : Http.Request}

theorem fields_eq_some_iff (f : Fields) :
  (do
    let hadith ← f.optional "hadithText" Decoder.text
    let question ← f.optional "userQuestion" Decoder.text
    let history ← f.optional "conversationHistory" Draft.hold
    let session ← f.optional "sessionId" Decoder.text
    return (⟨hadith, question, history, session⟩ : Chat)) = some input ↔
    f.optional "hadithText" Decoder.text = some input.hadith ∧
      f.optional "userQuestion" Decoder.text = some input.question ∧
      f.optional "conversationHistory" Draft.hold = some input.history ∧
      f.optional "sessionId" Decoder.text = some input.session
  := by
  simp only [Option.bind_eq_bind, Option.bind_eq_some_iff, Option.pure_def, Option.some.injEq]
  constructor
  · rintro ⟨_, hhadith, _, hquestion, _, hhistory, _, hsession, rfl⟩
    exact ⟨hhadith, hquestion, hhistory, hsession⟩
  · rintro ⟨hhadith, hquestion, hhistory, hsession⟩
    exact ⟨_, hhadith, _, hquestion, _, hhistory, _, hsession, rfl⟩

/-- The fields of a question are those of the places of a list. -/
theorem find_listed (levels : Nat) (items : List Draft) :
  let f : Fields := ⟨levels, true,
    ["hadithText", "userQuestion", "conversationHistory", "sessionId"].zip items⟩
  f.find "hadithText" = items[0]? ∧ f.find "userQuestion" = items[1]? ∧
    f.find "conversationHistory" = items[2]? ∧ f.find "sessionId" = items[3]?
  := by
  simp only [Fields.find_listed, List.mem_cons, true_or, or_true]
  refine ⟨?_, ?_, ?_, ?_⟩
  · rfl
  · rfl
  · rfl
  · rfl

/-- A draft is read as what a client sends exactly if it gives it. -/
theorem run_decoder_eq_some_iff :
  decoder.run d = some input ↔ Gives input d
  := by
  rw [Decoder.run, decoder, Draft.maxLevels, Decoder.structured_eq_some_iff]
  simp only [fields_eq_some_iff, optional_eq_some_iff, Decoder.text_eq_some_iff]
  constructor
  · rintro (⟨members, rfl, hsingle, hread⟩ | ⟨items, rfl, hlength, hread⟩)
    · rw [Fields.toList_find (by simp) (hsingle _ (by simp)),
        Fields.toList_find (by simp) (hsingle _ (by simp)),
        Fields.toList_find (by simp) (hsingle _ (by simp)),
        Fields.toList_find (by simp) (hsingle _ (by simp))] at hread
      obtain ⟨hhadith, hquestion, hhistory, hsession⟩ := hread
      exact .object hhadith hquestion hhistory hsession
    · obtain ⟨hfirst, hsecond, hthird, hfourth⟩ := find_listed 126 items
      rw [hfirst, hsecond, hthird, hfourth] at hread
      obtain ⟨hhadith, hquestion, hhistory, hsession⟩ := hread
      exact .list hlength hhadith hquestion hhistory hsession
  · intro h
    cases h with
    | @object members hhadith hquestion hhistory hsession =>
      have hsingle : ∀ name ∈ ["hadithText", "userQuestion", "conversationHistory", "sessionId"],
          (Draft.valuesOf members name).length ≤ 1 := by
        simp [hhadith.length_le, hquestion.length_le, hhistory.length_le, hsession.length_le]
      refine .inl ⟨members, rfl, hsingle, ?_⟩
      rw [Fields.toList_find (by simp) (hsingle _ (by simp)),
        Fields.toList_find (by simp) (hsingle _ (by simp)),
        Fields.toList_find (by simp) (hsingle _ (by simp)),
        Fields.toList_find (by simp) (hsingle _ (by simp))]
      exact ⟨hhadith, hquestion, hhistory, hsession⟩
    | @list items hlength hhadith hquestion hhistory hsession =>
      obtain ⟨hfirst, hsecond, hthird, hfourth⟩ := find_listed 126 items
      refine .inr ⟨items, rfl, hlength, ?_⟩
      rw [hfirst, hsecond, hthird, hfourth]
      exact ⟨hhadith, hquestion, hhistory, hsession⟩

theorem Gives.isNested (h : Gives input d) :
  d.isNested
  := by
  cases h with
  | object => rfl
  | list => rfl

/-- What is read of a request that asks a question is what the first value in its body gives. -/
theorem ofBody_eq_ok_iff :
  ofBody decoder r = .ok input ↔
    (Http.shownHeader? r.headers "content-type").any Http.MediaType.isJson = true ∧ Sends input r
  := by
  have hnested : ∀ d, decoder.run d = some input → d.isNested :=
    fun d hread => (run_decoder_eq_some_iff.mp hread).isNested
  rw [Input.ofBody_eq_ok_iff, Draft.leading?_bind_eq_some_iff hnested]
  simp only [run_decoder_eq_some_iff, Sends, Begins]

/-- A request does not send two different things. -/
theorem Sends.unique {input' : Chat}
    (hjson : (Http.shownHeader? r.headers "content-type").any Http.MediaType.isJson = true)
    (h : Sends input r) (h' : Sends input' r) :
  input = input'
  := by
  have hread := ofBody_eq_ok_iff.mpr ⟨hjson, h⟩
  rw [ofBody_eq_ok_iff.mpr ⟨hjson, h'⟩] at hread
  apply (Except.ok.inj hread).symm

end Chat

end Input

/-! ### What becomes of requests for explanations -/

variable {source : EditionSource} {s : Service} {now : Instant} {r : Http.Request} {a : Appeal}

/-- What a request in JSON wants explained is what the first value in its body gives. -/
theorem Appeal.explanation?_eq_some_iff
    (hjson : (Http.shownHeader? r.headers "content-type").any Http.MediaType.isJson = true) :
  explanation? r = some a ↔
    ∃ hadith, Input.Explain.Wants hadith r ∧
      a = .explanation (Http.clientOf r.headers r.peer) hadith
  := by
  rw [explanation?]
  constructor
  · intro h
    cases hbody : Input.ofBody Input.Explain.decoder r with
    | error refusal =>
      rw [hbody] at h
      cases h
    | ok input =>
      rw [hbody] at h
      obtain ⟨-, hshort, hread⟩ := Input.ofBody_eq_ok_iff.mp hbody
      obtain ⟨text?⟩ := input
      rw [Option.ite_none_left_eq_some, String.isEmpty_iff] at h
      obtain ⟨hcontent, ha⟩ := h
      cases text? with
      | none => exact absurd rfl hcontent
      | some text =>
        exact ⟨_, ⟨hshort, hcontent, text, Input.Explain.read_eq_some_iff.mp hread, rfl⟩,
          (Option.some.inj ha).symm⟩
  · rintro ⟨hadith, ⟨hshort, hcontent, text, hbegins, rfl⟩, rfl⟩
    have hread := Input.Explain.read_eq_some_iff.mpr hbegins
    rw [Input.ofBody_eq_ok_iff.mpr ⟨hjson, hshort, hread⟩]
    apply if_neg
    rw [String.isEmpty_iff]
    exact hcontent

namespace Service

theorem askedFor_of_status (e : Errand) {n : Nat}
    (h : (s.receive source now r).1.status? = some n) :
  (s.receive source now r).1.askedFor e = []
  := by
  cases hhandling : (s.receive source now r).1 with
  | answered response => rfl
  | pending p =>
    rw [hhandling] at h
    cases h

/-- A request for an explanation in JSON is answered with status 400, costs nothing and does not ask
the model unless its body starts with an object or a list that gives a text in which something is
left when it is sanitized.  Otherwise the client is denied, or the model is asked to explain what is
left of the text. -/
theorem explains_wanted (source : EditionSource) (s : Service) (now : Instant) (r : Http.Request)
    (herrand : Errand.ofRequest? r = some .explain)
    (hjson : (Http.shownHeader? r.headers "content-type").any Http.MediaType.isJson = true) :
  let handling := (s.receive source now r).1
  let t := (s.receive source now r).2.2
  let client := Http.clientOf r.headers r.peer
  ((∀ hadith, ¬ Input.Explain.Wants hadith r) →
    handling.status? = some 400 ∧ (∀ e, handling.askedFor e = []) ∧
      t = { s with metrics := t.metrics }) ∧
  ∀ hadith, Input.Explain.Wants hadith r →
    (s.explainLimiter.limit ≤ s.used .explain client now →
      handling.status? = some 429 ∧ ∀ e, handling.askedFor e = []) ∧
    (s.used .explain client now < s.explainLimiter.limit →
      handling = .pending ⟨r.id, .explain, r.arrival, Assistant.explainRequest hadith⟩)
  := by
  intro handling t client
  have happeal : ∀ a, Appeal.ofRequest? r = some a ↔
      ∃ hadith, Input.Explain.Wants hadith r ∧ a = .explanation client hadith := by
    intro a
    rw [← Appeal.explanation?_eq_some_iff hjson, Appeal.ofRequest?, herrand]
  constructor
  · intro hnone
    have hunread : Appeal.ofRequest? r = none := by
      apply Option.eq_none_iff_forall_ne_some.mpr
      intro a ha
      obtain ⟨hadith, hwants, -⟩ := (happeal a).mp ha
      exact hnone hadith hwants
    have hstatus : handling.status? = some 400 := (receive_of_unread source herrand hunread).1
    exact ⟨hstatus, fun e => askedFor_of_status e hstatus,
      (receive_of_unread source herrand hunread).2⟩
  · intro hadith hwants
    have ha := (happeal _).mpr ⟨hadith, hwants, rfl⟩
    constructor
    · intro hfull
      have hdenied := (receive_of_denied source ha hfull).1
      exact ⟨hdenied, fun e => askedFor_of_status e hdenied⟩
    · intro hfree
      exact (receive_of_open source ha hfree rfl).1

theorem explains_wanted_posted :
  let source : EditionSource := fun _ => ⟨0, .error .request⟩
  (sparing.receive source 5 (posted "/api/explain" "7")).1.status? = some 400 ∧
    (sparing.receive source 5 (posted "/api/explain" "\x7b\"text\":\"h\"\x7d")).1
      = .pending ⟨"1", .explain, 0, Assistant.explainRequest "h"⟩
  := by
  intro source
  constructor
  · have hnone : Appeal.explanation? (posted "/api/explain" "7") = none := rfl
    have hunwanted : ∀ hadith, ¬ Input.Explain.Wants hadith (posted "/api/explain" "7") := by
      intro hadith hwants
      cases hnone.symm.trans ((Appeal.explanation?_eq_some_iff rfl).mpr ⟨hadith, hwants, rfl⟩)
    exact ((explains_wanted source sparing 5 _ rfl rfl).1 hunwanted).1
  · have hbegins : Input.Explain.Begins "h"
        (posted "/api/explain" "\x7b\"text\":\"h\"\x7d").body :=
      Input.Explain.read_eq_some_iff.mp rfl
    have hwants : Input.Explain.Wants "h" (posted "/api/explain" "\x7b\"text\":\"h\"\x7d") :=
      ⟨by decide +kernel, by decide, "h", hbegins, rfl⟩
    exact ((explains_wanted source sparing 5 _ rfl rfl).2 "h" hwants).2 (by decide +kernel)

/-- The model is asked for a list of a text, and for an object with something behind it. -/
theorem explains_without_object :
  let source : EditionSource := fun _ => ⟨0, .error .request⟩
  (∀ members, ¬ Draft.Spells (Symbol.ofBytes (posted "/api/explain" "[\"h\"]").body)
      (.object members)) ∧
    (sparing.receive source 5 (posted "/api/explain" "[\"h\"]")).1
      = .pending ⟨"1", .explain, 0, Assistant.explainRequest "h"⟩ ∧
    (∀ members, ¬ Draft.Spells
      (Symbol.ofBytes (posted "/api/explain" "\x7b\"text\":\"h\"\x7d]").body)
      (.object members)) ∧
    (sparing.receive source 5 (posted "/api/explain" "\x7b\"text\":\"h\"\x7d]")).1
      = .pending ⟨"1", .explain, 0, Assistant.explainRequest "h"⟩
  := by
  intro source
  refine ⟨?_, rfl, ?_, rfl⟩
  · intro members hspells
    cases Draft.whole?_eq_some_iff.mpr hspells
  · intro members hspells
    cases Draft.whole?_eq_some_iff.mpr hspells

end Service

end HadithService
