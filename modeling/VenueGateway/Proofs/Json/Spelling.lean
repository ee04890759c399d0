import Mathlib.Data.List.Infix
import VenueGateway.Json.Reader
import VenueGateway.Proofs.Text.Utf8

namespace VenueGateway.Json

/-- The number that some hexadecimal digits go on with. -/
def hexNumber? (n : Nat) (ds : List Char) : Option Nat :=
  ds.foldlM (fun n d => (Text.hexValue? d).map (16 * n + ·)) n

/-- Four hexadecimal digits and their number. -/
def IsUnit (ds : List Char) (n : Nat) : Prop := ds.length = 4 ∧ hexNumber? 0 ds = some n

/-- The character of two surrogates. -/
def paired (high low : Nat) : Char :=
  Char.ofNat (0x10000 + (high - 0xD800) * 1024 + (low - 0xDC00))

/-- What stands between quotation marks, and the characters that it spells. -/
inductive Spells : List Char → List Char → Prop
  | nil : Spells [] []
  | plain {src cs : List Char} {c : Char} :
    Spells src cs → c ≠ '"' → c ≠ '\\' → 32 ≤ c.toNat → Spells (src ++ [c]) (cs ++ [c])
  | letter {src cs : List Char} {e c : Char} :
    Spells src cs → escaped? e = some c → Spells (src ++ ['\\', e]) (cs ++ [c])
  | unit {src cs ds : List Char} {n : Nat} :
    Spells src cs → IsUnit ds n → (n < 0xD800 ∨ 0xE000 ≤ n) →
      Spells (src ++ '\\' :: 'u' :: ds) (cs ++ [Char.ofNat n])
  | pair {src cs ds es : List Char} {high low : Nat} :
    Spells src cs → IsUnit ds high → 0xD800 ≤ high → high < 0xDC00 →
      IsUnit es low → 0xDC00 ≤ low → low < 0xE000 →
      Spells (src ++ '\\' :: 'u' :: ds ++ '\\' :: 'u' :: es) (cs ++ [paired high low])

/-- A string that some text spells between quotation marks. -/
def SpelledIn (text : List Char) (s : String) : Prop :=
  ∃ src, '"' :: (src ++ ['"']) <:+: text ∧ Spells src s.toList

theorem hexNumber?_concat (n : Nat) (ds : List Char) (d : Char) :
    hexNumber? n (ds ++ [d]) =
      (hexNumber? n ds).bind fun m => (Text.hexValue? d).map (16 * m + ·) := by
  simp [hexNumber?, List.foldlM_append]

theorem hexValue?_lt {c : Char} {n : Nat} (h : Text.hexValue? c = some n) : n < 16 := by
  unfold Text.hexValue? at h
  split_ifs at h with hdigit hlower hupper
  · have hle : c.toNat ≤ 57 := hdigit.2
    cases h
    omega
  · have hle : c.toNat ≤ 102 := hlower.2
    cases h
    omega
  · have hle : c.toNat ≤ 70 := hupper.2
    cases h
    omega

theorem hexNumber?_lt {ds : List Char} {n m : Nat} (h : hexNumber? n ds = some m) :
    m < (n + 1) * 16 ^ ds.length := by
  induction ds using List.reverseRecOn generalizing m with
  | nil =>
    cases h
    simp
  | append_singleton ds d ih =>
    rw [hexNumber?_concat] at h
    obtain ⟨k, hk, h⟩ := Option.bind_eq_some_iff.mp h
    obtain ⟨v, hv, rfl⟩ := Option.map_eq_some_iff.mp h
    have hlt := ih hk
    have hdigit := hexValue?_lt hv
    rw [List.length_append, List.length_singleton, pow_succ, ← mul_assoc]
    omega

theorem IsUnit.lt {ds : List Char} {n : Nat} (h : IsUnit ds n) : n < 0x10000 := by
  have hlt := hexNumber?_lt h.2
  rw [h.1] at hlt
  exact hlt

theorem toNat_paired {high low : Nat} (hhigh : high < 0xDC00) (hlow : low < 0xE000) :
    (paired high low).toNat = 0x10000 + (high - 0xD800) * 1024 + (low - 0xDC00) :=
  Text.toNat_ofNat (by omega)

/-- What has been read of a string since its quotation mark. -/
inductive Begins : List Char → Quote → Prop
  | whole {src chars : List Char} : Spells src chars.reverse → Begins src ⟨chars, none⟩
  | half {src chars ds : List Char} {high : Nat} :
    Spells src chars.reverse → IsUnit ds high → 0xD800 ≤ high → high < 0xDC00 →
      Begins (src ++ '\\' :: 'u' :: ds) ⟨chars, some high⟩

/-- What has been read where the scan stands. -/
def Scan.Behind (before : List Char) : Scan → Prop
  | .between | .word _ => True
  | .quote q => ∃ src, '"' :: src <:+ before ∧ Begins src q
  | .escape q => ∃ src, '"' :: (src ++ ['\\']) <:+ before ∧ Begins src q
  | .units q value digits =>
    ∃ src ds, '"' :: (src ++ '\\' :: 'u' :: ds) <:+ before ∧ Begins src q ∧
      ds.length = digits ∧ digits < 4 ∧ hexNumber? 0 ds = some value

theorem Begins.push {src : List Char} {q q' : Quote} {c : Char} (h : Begins src q)
    (hpush : q.push c = some q') {more : List Char}
    (hmore : ∀ cs, Spells src cs → Spells (src ++ more) (cs ++ [c])) : Begins (src ++ more) q' := by
  cases h with
  | whole hspells =>
    cases hpush
    apply Begins.whole
    rw [List.reverse_cons]
    exact hmore _ hspells
  | half => -- behind a first surrogate there is only a second one
    cases hpush

theorem Begins.pushUnit {src ds : List Char} {q q' : Quote} {n : Nat} (h : Begins src q)
    (hpush : q.pushUnit n = some q') (hunit : IsUnit ds n) :
    Begins (src ++ '\\' :: 'u' :: ds) q' := by
  -- A unit behind a whole text is a character or the first half of a pair; behind a half it has to
  -- be the second half.
  cases h with
  | @whole src chars hspells =>
    simp only [Quote.pushUnit] at hpush
    split_ifs at hpush with hhigh hlow
    · cases hpush
      exact .half hspells hunit hhigh.1 hhigh.2
    · cases hpush
      apply Begins.whole
      rw [List.reverse_cons]
      exact .unit hspells hunit (by omega)
  | @half src chars es high hspells hes hge hlt =>
    simp only [Quote.pushUnit] at hpush
    split_ifs at hpush with hlow
    cases hpush
    apply Begins.whole
    rw [List.reverse_cons]
    exact .pair hspells hes hge hlt hunit hlow.1 hlow.2

theorem foldlM_append_of_some {α σ : Type} {f : σ → α → Option σ} {a : List α} {s s' : σ}
    (h : a.foldlM f s = some s') (b : List α) : (a ++ b).foldlM f s = b.foldlM f s' := by
  rw [List.foldlM_append, h]
  rfl

theorem scan_unit {ds : List Char} {n : Nat} (h : IsUnit ds n) (q : Quote) (ts : List Token) :
    ('\\' :: 'u' :: ds).foldlM scanChar (.quote q, ts) =
      (q.pushUnit n).map fun q => (.quote q, ts) := by
  obtain ⟨hlength, hnumber⟩ := h
  obtain ⟨a, b, c, d, rfl⟩ : ∃ a b c d, ds = [a, b, c, d] := by
    match ds, hlength with
    | [a, b, c, d], _ => exact ⟨a, b, c, d, rfl⟩
  simp only [hexNumber?, List.foldlM_cons, List.foldlM_nil, Option.bind_eq_bind,
    Option.bind_eq_some_iff, Option.map_eq_some_iff] at hnumber
  obtain ⟨_, ⟨va, ha, rfl⟩, _, ⟨vb, hb, rfl⟩, _, ⟨vc, hc, rfl⟩, _, ⟨vd, hd, rfl⟩, hn⟩ := hnumber
  cases hn
  rw [Option.map_eq_bind]
  simp [scanChar, ha, hb, hc, hd]

theorem scan_spells {src cs : List Char} (h : Spells src cs) (ts : List Token) :
    src.foldlM scanChar (.quote {}, ts) = some (.quote ⟨cs.reverse, none⟩, ts) := by
  induction h with
  | nil => rfl
  | plain _ hquote hescape hcontrol ih =>
    rw [foldlM_append_of_some ih]
    simp [scanChar, hquote, hescape, Nat.not_lt.mpr hcontrol, Quote.push]
  | @letter src cs e c _ he ih =>
    have hunit : e ≠ 'u' := by
      rintro rfl
      cases he
    rw [foldlM_append_of_some ih]
    simp [scanChar, he, hunit, Quote.push]
  | @unit src cs ds n _ hunit hn ih =>
    have hhigh : ¬ (0xD800 ≤ n ∧ n < 0xDC00) := by omega
    have hlow : ¬ (0xDC00 ≤ n ∧ n < 0xE000) := by omega
    rw [foldlM_append_of_some ih, scan_unit hunit, Quote.pushUnit, if_neg hhigh, if_neg hlow]
    simp [Quote.push]
  | @pair src cs ds es high low _ hunit hge hlt hunit' hge' hlt' ih =>
    -- The first surrogate waits, and the second completes the character.
    have hfirst : (src ++ '\\' :: 'u' :: ds).foldlM scanChar (.quote {}, ts) =
        some (.quote ⟨cs.reverse, some high⟩, ts) := by
      rw [foldlM_append_of_some ih, scan_unit hunit, Quote.pushUnit, if_pos ⟨hge, hlt⟩]
      rfl
    have hsecond : Quote.pushUnit ⟨cs.reverse, some high⟩ low =
        some ⟨paired high low :: cs.reverse, none⟩ := if_pos ⟨hge', hlt'⟩
    rw [foldlM_append_of_some hfirst, scan_unit hunit', hsecond]
    simp

/-- Values whose strings all have a property, the names of fields aside. -/
inductive Within (P : String → Prop) : Json → Prop
  | null : Within P .null
  | bool (b : Bool) : Within P (.bool b)
  | number (n : Number) : Within P (.number n)
  | string {s : String} : P s → Within P (.string s)
  | array {items : List Json} : (∀ j ∈ items, Within P j) → Within P (.array items)
  | object {fields : List (String × Json)} :
      (∀ f ∈ fields, Within P f.2) → Within P (.object fields)

def Token.Within (P : String → Prop) : Token → Prop
  | .text s => P s
  | .literal j => j.Within P
  | _ => True

theorem scaled_isNumber {negative : Bool} {s : Nat} {e : Int} {j : Json}
    (h : scaled negative s e = some j) : ∃ n, j = .number n := by
  obtain ⟨x, -, rfl⟩ := Option.map_eq_some_iff.mp h
  exact ⟨_, rfl⟩

theorem wholeNumber_isNumber (negative : Bool) (s : Nat) :
    ∃ n, wholeNumber negative s = .number n := by
  unfold wholeNumber
  split_ifs
  · exact ⟨_, rfl⟩
  · exact ⟨_, rfl⟩
  · exact ⟨_, rfl⟩

theorem readExponent_isNumber {negative : Bool} {s : Nat} {e : Int} {cs : List Char} {j : Json}
    (h : readExponent negative s e cs = some j) : ∃ n, j = .number n := by
  unfold readExponent at h
  split at h
  rw [Option.ite_none_left_eq_some] at h
  obtain ⟨n, -, h⟩ := Option.bind_eq_some_iff.mp h.2
  split at h
  · exact scaled_isNumber h
  · -- The exponent is beyond every double, and only a zero is left.
    rw [Option.ite_none_left_eq_some] at h
    exact ⟨_, (Option.some.inj h.2).symm⟩

theorem readUnsigned_isNumber {negative : Bool} {cs : List Char} {j : Json}
    (h : readUnsigned negative cs = some j) : ∃ n, j = .number n := by
  simp only [readUnsigned, Option.bind_eq_bind, Option.bind_none, Option.ite_none_left_eq_some] at h
  obtain ⟨-, -, h⟩ := h
  -- The digits end the text, or a point or an exponent follows, and each way ends in a number or in
  -- nothing.
  split at h
  · split at h
    · rw [← Option.some.inj h]
      exact wholeNumber_isNumber _ _
    · exact scaled_isNumber h
  · rw [Option.ite_none_left_eq_some] at h
    replace h := h.2
    split at h
    · exact scaled_isNumber h
    · exact readExponent_isNumber h
    · exact readExponent_isNumber h
    · cases h
  · exact readExponent_isNumber h
  · exact readExponent_isNumber h
  · cases h

theorem readWord_within {P : String → Prop} {cs : List Char} {j : Json}
    (h : readWord cs = some j) : j.Within P := by
  unfold readWord at h
  split at h
  · cases h
    exact .null
  · cases h
    exact .bool true
  · cases h
    exact .bool false
  · have hnumber : ∃ n, j = .number n := by
      split at h
      · exact readUnsigned_isNumber h
      · exact readUnsigned_isNumber h
    obtain ⟨n, rfl⟩ := hnumber
    exact .number n

theorem scanBetween_behind {text : List Char} {ts : List Token} (before : List Char) (c : Char)
    (hts : ∀ t ∈ ts, t.Within (SpelledIn text)) :
    (scanBetween ts c).1.Behind (before ++ [c]) ∧
      ∀ t ∈ (scanBetween ts c).2, t.Within (SpelledIn text) := by
  -- Between tokens a quote starts a text that has nothing in it yet; a mark of punctuation carries
  -- no text.
  unfold scanBetween
  split_ifs with hspace hquote
  · exact ⟨trivial, hts⟩
  · subst hquote
    exact ⟨⟨[], List.suffix_append _ _, .whole .nil⟩, hts⟩
  · cases hmark : punctuation? c with
    | none => exact ⟨trivial, hts⟩
    | some t =>
      refine ⟨trivial, List.forall_mem_cons.mpr ⟨?_, hts⟩⟩
      unfold punctuation? at hmark
      split at hmark <;> cases hmark <;> trivial

theorem scanChar_behind {text before rest : List Char} {c : Char}
    (htext : before ++ c :: rest = text) {scan scan' : Scan} {ts ts' : List Token}
    (hstep : scanChar (scan, ts) c = some (scan', ts')) (hscan : scan.Behind before)
    (hts : ∀ t ∈ ts, t.Within (SpelledIn text)) :
    scan'.Behind (before ++ [c]) ∧ ∀ t ∈ ts', t.Within (SpelledIn text) := by
  -- One case for each state of the scanner. In a text, what was scanned of it ends at `before`, so
  -- the character makes it longer by one.
  cases scan with
  | between =>
    have hnext := scanBetween_behind before c hts
    rw [Option.some.inj hstep] at hnext
    exact hnext
  | word cs =>
    simp only [scanChar] at hstep
    split_ifs at hstep with hend
    · -- The character that ends the word is scanned as one between tokens.
      obtain ⟨j, hj, heq⟩ := Option.map_eq_some_iff.mp hstep
      have hnext := scanBetween_behind before c
        (List.forall_mem_cons.mpr ⟨readWord_within hj, hts⟩ :
          ∀ t ∈ Token.literal j :: ts, t.Within (SpelledIn text))
      rw [heq] at hnext
      exact hnext
    · cases hstep
      exact ⟨trivial, hts⟩
  | quote q =>
    obtain ⟨src, ⟨front, hfront⟩, hbegins⟩ := hscan
    simp only [scanChar] at hstep
    split_ifs at hstep with hquote hhalf hescape hcontrol
    · subst hquote
      cases hstep
      refine ⟨trivial, List.forall_mem_cons.mpr ⟨?_, hts⟩⟩
      cases hbegins with
      | @whole src chars hspells =>
        refine ⟨src, ⟨front, rest, ?_⟩, ?_⟩
        · rw [← htext, ← hfront]
          simp
        · rwa [String.toList_ofList]
      | half => exact absurd rfl hhalf
    · subst hescape
      cases hstep
      exact ⟨⟨src, ⟨front, by simp [← hfront]⟩, hbegins⟩, hts⟩
    · obtain ⟨q', hpush, heq⟩ := Option.map_eq_some_iff.mp hstep
      cases heq
      refine ⟨⟨src ++ [c], ⟨front, by simp [← hfront]⟩, ?_⟩, hts⟩
      exact hbegins.push hpush fun cs hspells => .plain hspells hquote hescape (by omega)
  | escape q =>
    obtain ⟨src, ⟨front, hfront⟩, hbegins⟩ := hscan
    simp only [scanChar] at hstep
    split_ifs at hstep with hunit
    · subst hunit
      cases hstep
      exact ⟨⟨src, [], ⟨front, by simp [← hfront]⟩, hbegins, rfl, by decide, rfl⟩, hts⟩
    · obtain ⟨d, hd, hstep⟩ := Option.bind_eq_some_iff.mp hstep
      obtain ⟨q', hpush, heq⟩ := Option.bind_eq_some_iff.mp hstep
      cases heq
      refine ⟨⟨src ++ ['\\', c], ⟨front, by simp [← hfront]⟩, ?_⟩, hts⟩
      exact hbegins.push hpush fun cs hspells => .letter hspells hd
  | units q value digits =>
    obtain ⟨src, ds, ⟨front, hfront⟩, hbegins, hlength, hlt, hvalue⟩ := hscan
    obtain ⟨d, hd, hstep⟩ := Option.bind_eq_some_iff.mp hstep
    have hnumber : hexNumber? 0 (ds ++ [c]) = some (16 * value + d) := by
      simp [hexNumber?_concat, hvalue, hd]
    have hdigits : (ds ++ [c]).length = digits + 1 := by simp [hlength]
    split_ifs at hstep with hmore
    · cases hstep
      refine ⟨⟨src, ds ++ [c], ⟨front, by simp [← hfront]⟩, hbegins, hdigits, ?_, hnumber⟩, hts⟩
      omega
    · obtain ⟨q', hpush, heq⟩ := Option.bind_eq_some_iff.mp hstep
      cases heq
      refine ⟨⟨src ++ '\\' :: 'u' :: (ds ++ [c]), ⟨front, by simp [← hfront]⟩, ?_⟩, hts⟩
      exact hbegins.pushUnit hpush ⟨by omega, hnumber⟩

theorem scan_behind {text before rest : List Char} (htext : before ++ rest = text)
    {state state' : Scan × List Token} (hrun : rest.foldlM scanChar state = some state')
    (hscan : state.1.Behind before) (hts : ∀ t ∈ state.2, t.Within (SpelledIn text)) :
    ∀ t ∈ state'.2, t.Within (SpelledIn text) := by
  -- Over what is left of the text, with the characters passed over moved behind the scan.
  induction rest generalizing before state with
  | nil =>
    cases hrun
    exact hts
  | cons c rest ih =>
    rw [List.foldlM_cons] at hrun
    obtain ⟨next, hstep, hrun⟩ := Option.bind_eq_some_iff.mp hrun
    obtain ⟨hnext, hnextTs⟩ := scanChar_behind htext hstep hscan hts
    exact ih (by simp [← htext]) hrun hnext hnextTs

theorem tokens_within {text : List Char} {ts : List Token} (h : tokens text = some ts) :
    ∀ t ∈ ts, t.Within (SpelledIn text) := by
  obtain ⟨⟨scan, found⟩, hrun, h⟩ := Option.bind_eq_some_iff.mp h
  have hfound := scan_behind (List.nil_append text) hrun trivial (List.forall_mem_nil _)
  intro t ht
  -- The text may end between tokens or in a word, which is then the last token; anywhere else the
  -- scan fails.
  cases scan with
  | between =>
    cases h
    exact hfound t (List.mem_reverse.mp ht)
  | word cs =>
    obtain ⟨j, hj, heq⟩ := Option.map_eq_some_iff.mp h
    subst heq
    rcases List.mem_cons.mp (List.mem_reverse.mp ht) with rfl | hmem
    · exact readWord_within hj
    · exact hfound t hmem
  | quote q => cases h
  | escape q => cases h
  | units q value digits => cases h

section

variable {P : String → Prop}

def FieldsWithin (P : String → Prop) (fields : List (String × Json)) : Prop :=
  ∀ f ∈ fields, f.2.Within P

def Open.Within (P : String → Prop) : Open → Prop
  | .array items => ∀ j ∈ items, j.Within P
  | .object fields _ => FieldsWithin P fields

def Expect.Within (P : String → Prop) : Expect → Prop
  | .value | .valueOrEnd | .commaOrEnd => True
  | .keyOrEnd fields | .key fields | .colon fields _ => FieldsWithin P fields
  | .nothing j => j.Within P

/-- What has been parsed, finished or not. -/
def ParsedWithin (P : String → Prop) (state : Expect × List Open) : Prop :=
  state.1.Within P ∧ ∀ o ∈ state.2, o.Within P

theorem FieldsWithin.insertField {fields : List (String × Json)} (h : FieldsWithin P fields)
    (key : String) {j : Json} (hj : j.Within P) : FieldsWithin P (insertField key j fields) := by
  induction fields with
  | nil => exact List.forall_mem_singleton.mpr hj
  | cons field rest ih =>
    obtain ⟨hfield, hrest⟩ := List.forall_mem_cons.mp h
    unfold Json.insertField
    split_ifs
    · exact List.forall_mem_cons.mpr ⟨hj, h⟩
    · exact List.forall_mem_cons.mpr ⟨hj, hrest⟩
    · exact List.forall_mem_cons.mpr ⟨hfield, ih hrest⟩

theorem close_within {j : Json} (hj : j.Within P) {stack : List Open}
    (hstack : ∀ o ∈ stack, o.Within P) : ParsedWithin P (close j stack) := by
  cases stack with
  | nil => exact ⟨hj, hstack⟩
  | cons top stack =>
    obtain ⟨htop, hbelow⟩ := List.forall_mem_cons.mp hstack
    cases top with
    | array items =>
      refine ⟨trivial, List.forall_mem_cons.mpr ⟨?_, hbelow⟩⟩
      exact List.forall_mem_cons.mpr ⟨hj, htop⟩
    | object fields key =>
      exact ⟨trivial, List.forall_mem_cons.mpr ⟨FieldsWithin.insertField htop key hj, hbelow⟩⟩

theorem startValue_within {stack : List Open} {t : Token} {state : Expect × List Open}
    (h : startValue stack t = some state) (ht : t.Within P) (hstack : ∀ o ∈ stack, o.Within P) :
    ParsedWithin P state := by
  unfold startValue at h
  split at h
  · cases h
    exact close_within ht hstack
  · cases h
    exact close_within (.string ht) hstack
  · split_ifs at h
    cases h
    exact ⟨trivial, List.forall_mem_cons.mpr ⟨List.forall_mem_nil _, hstack⟩⟩
  · split_ifs at h
    cases h
    exact ⟨List.forall_mem_nil _, hstack⟩
  · cases h

theorem parseToken_within {state state' : Expect × List Open} {t : Token}
    (h : parseToken state t = some state') (ht : t.Within P) (hstate : ParsedWithin P state) :
    ParsedWithin P state' := by
  obtain ⟨expect, stack⟩ := state
  obtain ⟨hexpect, hstack⟩ := hstate
  -- The parser puts values together and makes none, so what holds of the tokens holds of what is on
  -- the stack.
  simp only [parseToken] at h
  split at h
  · exact startValue_within h ht hstack
  · cases h
    apply close_within (.array (List.forall_mem_nil _))
    intro o ho
    exact hstack o (List.mem_of_mem_tail ho)
  · exact startValue_within h ht hstack
  · cases h
    exact close_within (.object (List.forall_mem_nil _)) hstack
  · cases h
    exact ⟨hexpect, hstack⟩
  · cases h
    exact ⟨hexpect, hstack⟩
  · cases h
    exact ⟨trivial, List.forall_mem_cons.mpr ⟨hexpect, hstack⟩⟩
  · split at h
    · cases h
      exact ⟨trivial, hstack⟩
    · cases h
      exact List.forall_mem_cons.mp hstack
    · cases h
  · split at h
    · cases h
      obtain ⟨hitems, hbelow⟩ := List.forall_mem_cons.mp hstack
      exact close_within (.array fun j hj => hitems j (List.mem_reverse.mp hj)) hbelow
    · cases h
  · split at h
    · cases h
      obtain ⟨hfields, hbelow⟩ := List.forall_mem_cons.mp hstack
      exact close_within (.object hfields) hbelow
    · cases h
  · cases h

theorem parse_within {ts : List Token} (hts : ∀ t ∈ ts, t.Within P)
    {state state' : Expect × List Open} (hrun : ts.foldlM parseToken state = some state')
    (hstate : ParsedWithin P state) : ParsedWithin P state' := by
  induction ts generalizing state with
  | nil =>
    cases hrun
    exact hstate
  | cons t ts ih =>
    obtain ⟨ht, hts⟩ := List.forall_mem_cons.mp hts
    rw [List.foldlM_cons] at hrun
    obtain ⟨next, hstep, hrun⟩ := Option.bind_eq_some_iff.mp hrun
    exact ih hts hrun (parseToken_within hstep ht hstate)

end

/-- Every string of a value is spelled in the text that the value is read from. -/
theorem read_within {text : String} {j : Json} (h : read text = some j) :
    j.Within (SpelledIn text.toList) := by
  obtain ⟨ts, hts, h⟩ := Option.bind_eq_some_iff.mp h
  obtain ⟨⟨expect, stack⟩, hparse, h⟩ := Option.bind_eq_some_iff.mp h
  have hparsed := parse_within (tokens_within hts) hparse ⟨trivial, List.forall_mem_nil _⟩
  split at h
  · next heq =>
    cases heq
    cases h
    exact hparsed.1
  · cases h

theorem mem_of_lookup {α : Type} {key : String} {fields : List (String × α)} {value : α}
    (h : lookup key fields = some value) : (key, value) ∈ fields := by
  induction fields with
  | nil => cases h
  | cons field rest ih =>
    unfold lookup at h
    split_ifs at h with hkey
    · cases h
      subst hkey
      exact List.mem_cons_self
    · exact List.mem_cons_of_mem _ (ih h)

theorem Within.field? {P : String → Prop} {j v : Json} (h : j.Within P) {key : String}
    (hv : j.field? key = some v) : v.Within P := by
  cases h with
  | object hfields => exact hfields _ (mem_of_lookup hv)
  | null | bool | number | string | array => cases hv

theorem Within.path? {P : String → Prop} {keys : List String} {j v : Json} (h : j.Within P)
    (hv : j.path? keys = some v) : v.Within P := by
  induction keys generalizing j with
  | nil =>
    cases hv
    exact h
  | cons key keys ih =>
    unfold Json.path? at hv
    rw [List.foldlM_cons] at hv
    obtain ⟨w, hw, hv⟩ := Option.bind_eq_some_iff.mp hv
    exact ih (h.field? hw) hv

/-- A character of `word` is spelled by its number. -/
def NumberedIn (text word : List Char) : Prop :=
  ∃ c ∈ word, ∃ ds, IsUnit ds c.toNat ∧ '\\' :: 'u' :: ds <:+: text

/-- A character that has no letter of its own and is no pair of surrogates. -/
def Plain (c : Char) : Prop := c.toNat < 0x10000 ∧ ∀ e, escaped? e ≠ some c

theorem NumberedIn.of_isInfix {text src word cs : List Char} (h : NumberedIn src cs)
    (hsrc : src <:+: text) (hcs : cs ⊆ word) : NumberedIn text word := by
  obtain ⟨c, hc, ds, hds, hunit⟩ := h
  exact ⟨c, hcs hc, ds, hds, hunit.trans hsrc⟩

/-- A word of plain characters stands in the text as it is, or has a character spelled by number. -/
theorem Spells.eq_or_numbered {src cs : List Char} (h : Spells src cs) (hcs : ∀ c ∈ cs, Plain c) :
    src = cs ∨ NumberedIn src cs := by
  induction h with
  | nil => exact .inl rfl
  | plain _ _ _ _ ih =>
    rcases ih fun c hc => hcs c (List.mem_append_left _ hc) with rfl | h
    · exact .inl rfl
    · exact .inr (h.of_isInfix (List.infix_append [] _ _) (List.subset_append_left _ _))
  | letter _ he => -- no letter stands for a plain character
    exact absurd he ((hcs _ (List.mem_append_right _ List.mem_cons_self)).2 _)
  | unit _ hunit hn =>
    have hlt := hunit.lt
    refine .inr ⟨_, List.mem_append_right _ List.mem_cons_self, _, ?_,
      (List.suffix_append _ _).isInfix⟩
    rwa [Text.toNat_ofNat (by omega)]
  | pair _ _ hge hlt _ hge' hlt' =>
    have hplain := hcs _ (List.mem_append_right _ List.mem_cons_self)
    have hlarge := toNat_paired hlt hlt'
    have hsmall := hplain.1
    omega

end VenueGateway.Json
