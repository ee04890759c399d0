import Mathlib.Data.String.Basic
import VenueGateway.Json.Writer
import VenueGateway.Proofs.Json.Spelling
import VenueGateway.Proofs.Text.Pieces
import VenueGateway.Proofs.Text.Query

namespace VenueGateway.Json

theorem le_ofDigitChars (s : Nat) (cs : List Char) : s ≤ Nat.ofDigitChars 10 cs s := by
  induction cs generalizing s with
  | nil => exact Nat.le_refl s
  | cons c cs ih =>
    have hstep := ih (10 * s + (c.toNat - '0'.toNat))
    rw [Nat.ofDigitChars_cons]
    omega

theorem significand_eq {s : Nat} {cs : List Char}
    (h : Nat.ofDigitChars 10 cs s < Text.bound64) :
    significand s cs = (Nat.ofDigitChars 10 cs s, 0) := by
  induction cs generalizing s with
  | nil => rfl
  | cons c cs ih =>
    rw [Nat.ofDigitChars_cons] at h ⊢
    have hs : 10 * s + (c.toNat - 48) < Text.bound64 := (le_ofDigitChars _ cs).trans_lt h
    rw [significand, if_pos hs]
    exact ih h

theorem head?_natDigits {n : Nat} (h : 0 < n) : (Text.natDigits n).head? ≠ some '0' := by
  induction n using Nat.strongRecOn with
  | ind n ih =>
    unfold Text.natDigits
    by_cases hsmall : n < 10
    · rw [Nat.toDigits_of_lt_base hsmall]
      have hdigit : ∀ n < 10, 0 < n → [Nat.digitChar n].head? ≠ some '0' := by decide
      exact hdigit n hsmall h
    · rw [Nat.toDigits_of_base_le (by decide) (by omega),
        List.head?_append_of_ne_nil _ Nat.toDigits_ne_nil]
      exact ih (n / 10) (by omega) (by omega)

theorem readUnsigned_natDigits (negative : Bool) {n : Nat} (h : n < Text.bound64) :
    readUnsigned negative (Text.natDigits n) = some (wholeNumber negative n) := by
  have hspan : (Text.natDigits n).span Char.isDigit = (Text.natDigits n, []) := by
    rw [List.span_eq_takeWhile_dropWhile,
      List.takeWhile_eq_self_iff.mpr Text.isDigit_of_mem_natDigits,
      List.dropWhile_eq_nil_iff.mpr Text.isDigit_of_mem_natDigits]
  have hne : (Text.natDigits n).isEmpty = false := by
    simp [Text.natDigits, Nat.toDigits_ne_nil]
  have hzero : ¬ ((Text.natDigits n).length > 1 ∧ (Text.natDigits n).head? = some '0') := by
    rintro ⟨hlength, hhead⟩
    -- Only zero begins with a zero, and it has one digit.
    rcases Nat.eq_zero_or_pos n with rfl | hpos
    · exact absurd hlength (by decide)
    · exact head?_natDigits hpos hhead
  have hvalue : Nat.ofDigitChars 10 (Text.natDigits n) 0 = n := Nat.ofDigitChars_ten_toDigits
  have hsignificand : significand 0 (Text.natDigits n) = (n, 0) := by
    rw [significand_eq (by rwa [hvalue]), hvalue]
  simp only [readUnsigned, Option.bind_eq_bind, Option.bind_none, hspan, hne, hzero, hsignificand,
    Bool.false_eq_true, if_false, if_true]
  rfl

/-- A word that begins with no small letter is a number. -/
theorem readWord_of_not_lower {c : Char} {cs : List Char} (h : c.isLower = false) :
    readWord (c :: cs) =
      match c :: cs with
      | '-' :: cs => readUnsigned true cs
      | cs => readUnsigned false cs := by
  have hword : ∀ s : String, String.ofList (c :: cs) = s → s.toList.head? = some c := by
    rintro s rfl
    rw [String.toList_ofList]
    rfl
  -- The three words start with a small letter.
  unfold readWord
  split
  · next heq =>
    cases hword _ heq
    cases h
  · next heq =>
    cases hword _ heq
    cases h
  · next heq =>
    cases hword _ heq
    cases h
  · rfl

theorem isLower_of_isDigit {c : Char} (h : c.isDigit = true) : c.isLower = false := by
  have hle : c.toNat ≤ 57 := of_decide_eq_true (Bool.and_eq_true_iff.mp h).2
  rw [Bool.eq_false_iff]
  intro hlower
  have hge : 97 ≤ c.toNat := of_decide_eq_true (Bool.and_eq_true_iff.mp hlower).1
  omega

theorem readWord_natDigits {n : Nat} (h : n < Text.bound64) :
    readWord (Text.natDigits n) = some (.ofNat n) := by
  have hread := readUnsigned_natDigits false h
  have hne : Text.natDigits n ≠ [] := Nat.toDigits_ne_nil
  obtain ⟨c, cs, hcs⟩ := List.exists_cons_of_ne_nil hne
  have hc : c.isDigit = true := by
    apply Text.isDigit_of_mem_natDigits (n := n)
    rw [hcs]
    exact List.mem_cons_self
  rw [hcs] at hread ⊢
  rw [readWord_of_not_lower (isLower_of_isDigit hc)]
  split
  · next heq =>
    cases heq
    cases hc
  · exact hread

theorem readWord_neg_natDigits {n : Nat} (h : 0 < n) (h' : n ≤ Text.signedBound64) :
    readWord ('-' :: Text.natDigits n) = some (.ofInt (-n)) := by
  have hbound : n < Text.bound64 := Nat.lt_of_le_of_lt h' (by decide)
  have hwhole : ¬ (n = 0 ∨ Text.signedBound64 < n) := by omega
  rw [readWord_of_not_lower (by decide)]
  change readUnsigned true (Text.natDigits n) = _
  rw [readUnsigned_natDigits true hbound, wholeNumber, if_neg (by decide), if_neg hwhole]
  rfl

theorem readWord_ofInt {n : Int} (h : -(Text.signedBound64 : Int) ≤ n) (h' : n < Text.bound64) :
    readWord (Text.ofInt n).toList = some (.ofInt n) := by
  cases n with
  | ofNat n =>
    rw [Text.ofInt, Text.ofNat, String.toList_ofList]
    exact readWord_natDigits (Int.ofNat_lt.mp h')
  | negSucc n =>
    rw [Text.ofInt, Text.ofNat, String.toList_append, String.toList_ofList, String.toList_ofList]
    exact readWord_neg_natDigits (Nat.succ_pos n) (by omega)

/-- What has been scanned, once a last word has been read. -/
def settled? : Scan × List Token → Option (List Token)
  | (.between, ts) => some ts
  | (.word cs, ts) => (readWord cs.reverse).map fun j => .literal j :: ts
  | _ => none

theorem tokens_eq (cs : List Char) :
    tokens cs = ((cs.foldlM scanChar (.between, [])).bind settled?).map List.reverse := by
  unfold tokens
  rw [Option.bind_eq_bind]
  cases cs.foldlM scanChar (.between, []) with
  | none => rfl
  | some state =>
    obtain ⟨scan, ts⟩ := state
    cases scan with
    | word cs => simp [settled?, Function.comp_def]
    | between | quote | escape | units => rfl

/-- The text is scanned into these tokens, after which the scan is between tokens. -/
def ScannedTo (src : List Char) (out : List Token) : Prop :=
  ∀ ts, src.foldlM scanChar (.between, ts) = some (.between, out.reverse ++ ts)

/-- The text is scanned into these tokens, the last of which may be a word that may go on. -/
def ScannedUpTo (src : List Char) (out : List Token) : Prop :=
  ∀ ts, (src.foldlM scanChar (.between, ts)).bind settled? = some (out.reverse ++ ts)

theorem ScannedTo.upTo {src : List Char} {out : List Token} (h : ScannedTo src out) :
    ScannedUpTo src out := by
  intro ts
  rw [h ts]
  rfl

theorem ScannedTo.append {a b : List Char} {x y : List Token} (ha : ScannedTo a x)
    (hb : ScannedTo b y) : ScannedTo (a ++ b) (x ++ y) := by
  intro ts
  rw [foldlM_append_of_some (ha ts), hb, List.reverse_append, List.append_assoc]

theorem ScannedTo.append_upTo {a b : List Char} {x y : List Token} (ha : ScannedTo a x)
    (hb : ScannedUpTo b y) : ScannedUpTo (a ++ b) (x ++ y) := by
  intro ts
  rw [foldlM_append_of_some (ha ts), hb, List.reverse_append, List.append_assoc]

theorem scanBetween_mark {c : Char} {t : Token} (h : punctuation? c = some t) (ts : List Token) :
    scanBetween ts c = (.between, t :: ts) := by
  have hspace : isSpace c = false := by
    unfold punctuation? at h
    split at h <;> first | rfl | cases h
  have hquote : c ≠ '"' := by
    rintro rfl
    cases h
  simp [scanBetween, hspace, hquote, h]

theorem scannedTo_mark {c : Char} {t : Token} (h : punctuation? c = some t) :
    ScannedTo [c] [t] := by
  intro ts
  exact congrArg some (scanBetween_mark h ts)

/-- A mark ends the word before it. -/
theorem ScannedUpTo.mark {src : List Char} {out : List Token} (hsrc : ScannedUpTo src out)
    {c : Char} {t : Token} (h : punctuation? c = some t) :
    ScannedTo (src ++ [c]) (out ++ [t]) := by
  intro ts
  obtain ⟨⟨scan, found⟩, hrun, hsettled⟩ := Option.bind_eq_some_iff.mp (hsrc ts)
  rw [foldlM_append_of_some hrun, List.reverse_concat]
  -- A scan that is settled is not inside a string.
  cases scan with
  | between =>
    cases hsettled
    exact congrArg some (scanBetween_mark h _)
  | word cs =>
    obtain ⟨j, hj, heq⟩ := Option.map_eq_some_iff.mp hsettled
    have hstep : scanChar (.word cs, found) c = some (scanBetween (.literal j :: found) c) := by
      simp [scanChar, h, hj]
    rw [List.foldlM_cons, hstep, heq, scanBetween_mark h]
    rfl
  | quote q => cases hsettled
  | escape q => cases hsettled
  | units q value digits => cases hsettled

def isWordChar (c : Char) : Bool := !isSpace c && c != '"' && (punctuation? c).isNone

theorem isWordChar_of_isDigit {c : Char} (h : c.isDigit = true) : isWordChar c = true := by
  have hspace : isSpace c = false := by
    simp only [isSpace, Bool.or_eq_false_iff, beq_eq_false_iff_ne]
    refine ⟨⟨⟨?_, ?_⟩, ?_⟩, ?_⟩ <;> rintro rfl <;> cases h
  have hquote : c ≠ '"' := by
    rintro rfl
    cases h
  have hmark : punctuation? c = none := by
    unfold punctuation?
    split <;> first | rfl | cases h
  simp [isWordChar, hspace, hquote, hmark]

theorem scan_word {cs : List Char} (h : cs.all isWordChar = true) (word : List Char)
    (ts : List Token) :
    cs.foldlM scanChar (.word word, ts) = some (.word (cs.reverse ++ word), ts) := by
  induction cs generalizing word with
  | nil => rfl
  | cons c cs ih =>
    rw [List.all_cons, Bool.and_eq_true] at h
    obtain ⟨hc, hcs⟩ := h
    simp only [isWordChar, Bool.and_eq_true, Bool.not_eq_true', bne_iff_ne] at hc
    have hstep : scanChar (.word word, ts) c = some (.word (c :: word), ts) := by
      simp [scanChar, hc.1.1, hc.1.2, Option.isNone_iff_eq_none.mp hc.2]
    rw [List.foldlM_cons, hstep, List.reverse_cons, List.append_assoc]
    exact ih hcs (c :: word)

theorem scannedUpTo_word {cs : List Char} {j : Json} (hcs : cs.all isWordChar = true)
    (hread : readWord cs = some j) : ScannedUpTo cs [.literal j] := by
  intro ts
  cases cs with
  | nil => cases hread
  | cons c cs =>
    rw [List.all_cons, Bool.and_eq_true] at hcs
    obtain ⟨hc, hcs⟩ := hcs
    simp only [isWordChar, Bool.and_eq_true, Bool.not_eq_true', bne_iff_ne] at hc
    have hstep : scanChar (.between, ts) c = some (.word [c], ts) := by
      simp [scanChar, scanBetween, hc.1.1, hc.1.2, Option.isNone_iff_eq_none.mp hc.2]
    rw [List.foldlM_cons, hstep, Option.bind_eq_bind, Option.bind_some, scan_word hcs,
      Option.bind_some]
    simp [settled?, hread]

theorem scannedUpTo_ofInt {n : Int} (h : -(Text.signedBound64 : Int) ≤ n)
    (h' : n < Text.bound64) : ScannedUpTo (Text.ofInt n).toList [.literal (.ofInt n)] := by
  refine scannedUpTo_word (List.all_eq_true.mpr fun c hc => ?_) (readWord_ofInt h h')
  cases n with
  | ofNat n =>
    rw [Text.ofInt, Text.ofNat, String.toList_ofList] at hc
    exact isWordChar_of_isDigit (Text.isDigit_of_mem_natDigits c hc)
  | negSucc n =>
    rw [Text.ofInt, Text.ofNat, String.toList_append, String.toList_ofList,
      String.toList_ofList] at hc
    rcases List.mem_cons.mp hc with rfl | hdigit
    · decide
    · exact isWordChar_of_isDigit (Text.isDigit_of_mem_natDigits c hdigit)

theorem hexValue?_hexDigit (n : Nat) : Text.hexValue? (Text.hexDigit n) = some (n % 16) := by
  have hall : ∀ k < 16, Text.hexValue? (Nat.digitChar k) = some k := by decide
  exact hall (n % 16) (Nat.mod_lt n (by decide))

theorem isUnit_hexDigits {n : Nat} (h : n < 32) :
    IsUnit ['0', '0', Text.hexDigit (n / 16), Text.hexDigit n] n := by
  refine ⟨rfl, ?_⟩
  have hzero : Text.hexValue? '0' = some 0 := rfl
  simp only [hexNumber?, List.foldlM_cons, List.foldlM_nil, hzero, hexValue?_hexDigit,
    Option.map_some, Option.bind_eq_bind, Option.bind_some, Option.pure_def, Option.some.injEq]
  omega

theorem Spells.escapeChar {src cs : List Char} (h : Spells src cs) (c : Char) :
    Spells (src ++ escapeChar c) (cs ++ [c]) := by
  have hnumber : ∀ n, c.toNat = n → Char.ofNat n = c := by
    rintro n rfl
    exact Char.ofNat_toNat c
  -- A character is written by its letter, as a unit of four digits when it is a control character,
  -- or as itself.
  unfold Json.escapeChar
  split_ifs with hquote hescape hline hreturn htab hback hfeed hcontrol
  · subst hquote
    exact .letter h rfl
  · subst hescape
    exact .letter h rfl
  · subst hline
    exact .letter h rfl
  · subst hreturn
    exact .letter h rfl
  · subst htab
    exact .letter h rfl
  · rw [← hnumber 8 hback]
    exact .letter h rfl
  · rw [← hnumber 12 hfeed]
    exact .letter h rfl
  · have hspells := h.unit (isUnit_hexDigits hcontrol) (.inl (by omega))
    rwa [hnumber _ rfl] at hspells
  · exact .plain h hquote hescape (by omega)

theorem spells_escaped (cs : List Char) : Spells (cs.flatMap escapeChar) cs := by
  induction cs using List.reverseRecOn with
  | nil => exact .nil
  | append_singleton cs c ih =>
    rw [List.flatMap_append, List.flatMap_singleton]
    exact ih.escapeChar c

theorem scannedTo_quoted (s : String) : ScannedTo (quoted s).toList [.text s] := by
  intro ts
  have hopen : scanChar (.between, ts) '"' = some (.quote {}, ts) := rfl
  have hclose : scanChar (.quote ⟨s.toList.reverse, none⟩, ts) '"' =
      some (.between, .text s :: ts) := by
    simp [scanChar]
  rw [quoted, String.toList_ofList, List.foldlM_cons, hopen, Option.bind_eq_bind,
    Option.bind_some, foldlM_append_of_some (scan_spells (spells_escaped s.toList) ts),
    List.foldlM_cons, hclose]
  rfl

mutual

/-- The tokens of a value's text. -/
def tokensOf : Json → List Token
  | .array items => .beginArray :: (itemTokens items ++ [.endArray])
  | .object fields => .beginObject :: (fieldTokens fields ++ [.endObject])
  | .string s => [.text s]
  | .null => [.literal .null]
  | .bool b => [.literal (.bool b)]
  | .number n => [.literal (.number n)]

def itemTokens : List Json → List Token
  | [] => []
  | [v] => tokensOf v
  | v :: rest => tokensOf v ++ .comma :: itemTokens rest

def fieldTokens : List (String × Json) → List Token
  | [] => []
  | [(k, v)] => .text k :: .colon :: tokensOf v
  | (k, v) :: rest => .text k :: .colon :: (tokensOf v ++ .comma :: fieldTokens rest)

end

theorem itemTokens_cons_cons (v w : Json) (rest : List Json) :
    itemTokens (v :: w :: rest) = tokensOf v ++ .comma :: itemTokens (w :: rest) := by
  rw [itemTokens]
  simp

theorem fieldTokens_cons_cons (k : String) (v : Json) (w : String × Json)
    (rest : List (String × Json)) :
    fieldTokens ((k, v) :: w :: rest) =
      (.text k :: .colon :: tokensOf v) ++ .comma :: fieldTokens (w :: rest) := by
  rw [fieldTokens]
  · rfl
  · simp

/-- Values of whole numbers within 64 bits, with fields in the order of their keys, nested at most
so deep. -/
inductive Readable : Nat → Json → Prop
  | null {depth : Nat} : Readable depth .null
  | bool {depth : Nat} (b : Bool) : Readable depth (.bool b)
  | whole {depth : Nat} {n : Int} : -(Text.signedBound64 : Int) ≤ n → n < Text.bound64 →
      Readable depth (.ofInt n)
  | string {depth : Nat} (s : String) : Readable depth (.string s)
  | array {depth : Nat} {items : List Json} : (∀ j ∈ items, Readable depth j) →
      Readable (depth + 1) (.array items)
  | object {depth : Nat} {fields : List (String × Json)} :
      (fields.map Prod.fst).Pairwise (· < ·) → (∀ f ∈ fields, Readable depth f.2) →
        Readable (depth + 1) (.object fields)

def textChars (pieces : List String) : List Char := pieces.flatMap String.toList

theorem scannedUpTo_items {items : List Json} (hne : items ≠ [])
    (h : ∀ j ∈ items, ScannedUpTo (textChars j.pieces) (tokensOf j)) :
    ScannedUpTo (textChars (itemPieces items)) (itemTokens items) := by
  induction items with
  | nil => exact absurd rfl hne
  | cons v rest ih =>
    obtain ⟨hv, hrest⟩ := List.forall_mem_cons.mp h
    cases rest with
    | nil => exact hv
    | cons w rest =>
      have htail := (hv.mark (c := ',') rfl).append_upTo (ih (by simp) hrest)
      rw [itemPieces, itemTokens_cons_cons]
      · simpa [textChars] using htail
      · simp

theorem scannedUpTo_fields {fields : List (String × Json)} (hne : fields ≠ [])
    (h : ∀ f ∈ fields, ScannedUpTo (textChars f.2.pieces) (tokensOf f.2)) :
    ScannedUpTo (textChars (fieldPieces fields)) (fieldTokens fields) := by
  induction fields with
  | nil => exact absurd rfl hne
  | cons field rest ih =>
    obtain ⟨k, v⟩ := field
    obtain ⟨hv, hrest⟩ := List.forall_mem_cons.mp h
    have hkey : ScannedTo ((quoted k).toList ++ [':']) ([.text k] ++ [.colon]) :=
      (scannedTo_quoted k).upTo.mark rfl
    have hfield := hkey.append_upTo hv
    -- The comma behind a field ends its value, so each value is scanned up to its last token only.
    cases rest with
    | nil => simpa [textChars, fieldPieces, fieldTokens] using hfield
    | cons w rest =>
      have htail := (hfield.mark (c := ',') rfl).append_upTo (ih (by simp) hrest)
      rw [fieldPieces, fieldTokens_cons_cons]
      · simpa [textChars] using htail
      · simp

theorem Readable.scanned {depth : Nat} {j : Json} (h : Readable depth j) :
    ScannedUpTo (textChars j.pieces) (tokensOf j) := by
  -- Induction on how the value is readable; the brackets of an array or an object end the value
  -- before them.
  induction h with
  | null => exact scannedUpTo_word (by decide) rfl
  | bool b => cases b <;> exact scannedUpTo_word (by decide) rfl
  | whole hlow hhigh =>
    have hword := scannedUpTo_ofInt hlow hhigh
    simpa [textChars, pieces, tokensOf, ofInt, numberText] using hword
  | string s => simpa [textChars, pieces, tokensOf] using (scannedTo_quoted s).upTo
  | @array depth items _ ih =>
    have hopen : ScannedTo ['['] [.beginArray] := scannedTo_mark rfl
    by_cases hne : items = []
    · subst hne
      exact (hopen.append (scannedTo_mark (c := ']') rfl)).upTo
    · have hclosed := ((hopen.append_upTo (scannedUpTo_items hne ih)).mark (c := ']') rfl).upTo
      simpa [textChars, pieces, tokensOf] using hclosed
  | @object depth fields _ _ ih =>
    have hopen : ScannedTo ['{'] [.beginObject] := scannedTo_mark rfl
    by_cases hne : fields = []
    · subst hne
      exact (hopen.append (scannedTo_mark (c := '}') rfl)).upTo
    · have hclosed := ((hopen.append_upTo (scannedUpTo_fields hne ih)).mark (c := '}') rfl).upTo
      simpa [textChars, pieces, tokensOf] using hclosed

theorem Readable.tokens_text {depth : Nat} {j : Json} (h : Readable depth j) :
    tokens j.text.toList = some (tokensOf j) := by
  have hscanned := h.scanned []
  rw [textChars, ← String.toList_join] at hscanned
  rw [tokens_eq, text, hscanned]
  simp

/-- The tokens of the value are parsed into it, within so many more levels. -/
def Parsed (depth : Nat) (j : Json) : Prop :=
  ∀ stack : List Open, stack.length + depth ≤ maxDepth →
    (tokensOf j).foldlM parseToken (.value, stack) = some (close j stack)

theorem parse_items {depth : Nat} {stack : List Open} (hdepth : stack.length + depth < maxDepth)
    {items : List Json} (hne : items ≠ []) (h : ∀ j ∈ items, Parsed depth j) (before : List Json) :
    (itemTokens items ++ [Token.endArray]).foldlM parseToken (.value, .array before :: stack) =
      some (close (.array (before.reverse ++ items)) stack) := by
  induction items generalizing before with
  | nil => exact absurd rfl hne
  | cons v rest ih =>
    obtain ⟨hv, hrest⟩ := List.forall_mem_cons.mp h
    have hvalue := hv (.array before :: stack) (by simp only [List.length_cons]; omega)
    -- The last item is followed by the bracket and any other by a comma and the rest.
    cases rest with
    | nil =>
      rw [itemTokens, foldlM_append_of_some hvalue]
      simp [close, parseToken]
    | cons w rest =>
      have htail := ih (by simp) hrest (v :: before)
      rw [List.reverse_cons, List.append_assoc] at htail
      rw [itemTokens_cons_cons, List.append_assoc, foldlM_append_of_some hvalue]
      exact htail

/-- A field whose key comes last is put last. -/
theorem insertField_of_lt {α : Type} {key : String} {fields : List (String × α)}
    (h : ∀ f ∈ fields, f.1 < key) (value : α) :
    insertField key value fields = fields ++ [(key, value)] := by
  induction fields with
  | nil => rfl
  | cons f rest ih =>
    obtain ⟨hf, hrest⟩ := List.forall_mem_cons.mp h
    rw [insertField, if_neg (lt_asymm hf), if_neg (ne_of_gt hf), ih hrest]
    rfl

theorem parse_fields {depth : Nat} {stack : List Open} (hdepth : stack.length + depth < maxDepth)
    {fields : List (String × Json)} (hne : fields ≠ []) (h : ∀ f ∈ fields, Parsed depth f.2)
    (before : List (String × Json)) (hsorted : (before ++ fields).Pairwise (·.1 < ·.1)) :
    (fieldTokens fields ++ [Token.endObject]).foldlM parseToken (.key before, stack) =
      some (close (.object (before ++ fields)) stack) := by
  induction fields generalizing before with
  | nil => exact absurd rfl hne
  | cons field rest ih =>
    obtain ⟨k, v⟩ := field
    obtain ⟨hv, hrest⟩ := List.forall_mem_cons.mp h
    -- The key comes after those before it, so that the field is put behind theirs.
    have hlast : ∀ f ∈ before, f.1 < k := fun f hf =>
      (List.pairwise_append.mp hsorted).2.2 f hf _ List.mem_cons_self
    have hvalue : (.text k :: .colon :: tokensOf v).foldlM parseToken (.key before, stack) =
        some (.commaOrEnd, .object (before ++ [(k, v)]) k :: stack) := by
      rw [← insertField_of_lt hlast]
      exact hv (.object before k :: stack) (by simp only [List.length_cons]; omega)
    cases rest with
    | nil =>
      rw [fieldTokens, foldlM_append_of_some hvalue]
      simp [parseToken]
    | cons w rest =>
      have htail := ih (by simp) hrest (before ++ [(k, v)]) (by simpa using hsorted)
      rw [List.append_assoc] at htail
      rw [fieldTokens_cons_cons, List.append_assoc, foldlM_append_of_some hvalue]
      exact htail

/-- The first key of an object stands where the object could have ended. -/
theorem parse_keyOrEnd {fields : List (String × Json)} (hne : fields ≠ []) (ts : List Token)
    (stack : List Open) :
    (fieldTokens fields ++ ts).foldlM parseToken (.keyOrEnd [], stack) =
      (fieldTokens fields ++ ts).foldlM parseToken (.key [], stack) := by
  cases fields with
  | nil => exact absurd rfl hne
  | cons field rest => cases rest <;> rfl

theorem parse_firstItem {items : List Json} (hne : items ≠ []) (ts : List Token)
    (stack : List Open) :
    (itemTokens items ++ ts).foldlM parseToken (.valueOrEnd, stack) =
      (itemTokens items ++ ts).foldlM parseToken (.value, stack) := by
  cases items with
  | nil => exact absurd rfl hne
  | cons v rest => cases rest <;> cases v <;> rfl

theorem Readable.parsed {depth : Nat} {j : Json} (h : Readable depth j) : Parsed depth j := by
  -- Induction on how the value is readable; every level takes one place of the stack, which
  -- `hdepth` leaves free.
  induction h with
  | null | bool | whole | string => exact fun _ _ => rfl
  | @array depth items _ ih =>
    intro stack hdepth
    have hopen : parseToken (.value, stack) .beginArray = some (.valueOrEnd, .array [] :: stack) :=
      if_pos (by omega)
    rw [tokensOf, List.foldlM_cons, hopen, Option.bind_eq_bind, Option.bind_some]
    by_cases hne : items = []
    · subst hne
      rfl
    · rw [parse_firstItem hne]
      exact parse_items (by omega) hne ih []
  | @object depth fields hsorted _ ih =>
    intro stack hdepth
    have hopen : parseToken (.value, stack) .beginObject = some (.keyOrEnd [], stack) :=
      if_pos (by omega)
    rw [tokensOf, List.foldlM_cons, hopen, Option.bind_eq_bind, Option.bind_some]
    by_cases hne : fields = []
    · subst hne
      rfl
    · rw [parse_keyOrEnd hne]
      exact parse_fields (by omega) hne ih [] (List.pairwise_map.mp hsorted)

/-- The text of such a value reads back as the value. -/
theorem read_text {j : Json} (h : Readable maxDepth j) : read j.text = some j := by
  have hparsed := h.parsed [] (by simp)
  simp only [read, h.tokens_text, Option.bind_eq_bind, Option.bind_some, hparsed]
  rfl

end VenueGateway.Json
