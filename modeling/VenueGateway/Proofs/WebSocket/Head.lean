import VenueGateway.Proofs.Text.Pieces
import VenueGateway.Proofs.Text.Utf8
import VenueGateway.WebSocket.Handshake

namespace VenueGateway.Handshake

/-- An end of line and a line with nothing in it. -/
def blankLine : Bytes := [13, 10, 13, 10]

theorem blankLine_suffix_iff (bytes : Bytes) :
    blankLine <:+ bytes ↔ ∃ before, bytes.reverse = 10 :: 13 :: 10 :: 13 :: before := by
  rw [← List.reverse_prefix]
  constructor
  · rintro ⟨before, h⟩
    exact ⟨before, h.symm⟩
  · rintro ⟨before, h⟩
    exact ⟨before, h.symm⟩

namespace HeadReader

def bytes (r : HeadReader) : Bytes := r.reversed.reverse

theorem push_of_blankLine {r : HeadReader} {b : UInt8} (h : blankLine <:+ r.bytes ++ [b]) :
    r.push b = .complete (r.bytes ++ [b]) := by
  obtain ⟨before, hb⟩ := (blankLine_suffix_iff _).mp h
  have hr : b :: r.reversed = 10 :: 13 :: 10 :: 13 :: before := by simpa [bytes] using hb
  have hwhole : r.bytes ++ [b] = before.reverse ++ [13, 10, 13, 10] := by
    have he := congrArg List.reverse hr
    simpa [bytes] using he
  simp only [push, hr, hwhole]

theorem push_of_open {r : HeadReader} {b : UInt8} (h : ¬ blankLine <:+ r.bytes ++ [b]) :
    r.push b = if maxHead < r.length + 1 then .tooLarge
      else .more ⟨b :: r.reversed, r.length + 1⟩ := by
  have hne : ∀ before, b :: r.reversed ≠ 10 :: 13 :: 10 :: 13 :: before := by
    intro before hr
    refine h ((blankLine_suffix_iff _).mpr ⟨before, ?_⟩)
    simpa [bytes] using hr
  unfold push
  split
  · next before hr => exact absurd hr (hne before)
  · rfl

/-- Bytes among which no head ends, and that a head has room for, are only taken in. -/
theorem feed_of_open {r : HeadReader} {xs : Bytes}
    (h : ∀ p, p ≠ [] → p <+: xs → ¬ blankLine <:+ r.bytes ++ p)
    (hlen : r.length + xs.length ≤ maxHead) (rest : Bytes) :
    r.feed (xs ++ rest) = feed ⟨xs.reverse ++ r.reversed, r.length + xs.length⟩ rest := by
  -- No prefix ends in the blank line, so the reader takes the bytes one by one and stays open.
  induction xs generalizing r with
  | nil => rfl
  | cons x xs ih =>
    have hx : ¬ blankLine <:+ r.bytes ++ [x] :=
      h [x] (by simp) (by simp)
    have hroom : ¬ maxHead < r.length + 1 := by
      rw [List.length_cons] at hlen
      omega
    have hpush := push_of_open hx
    rw [if_neg hroom] at hpush
    have hnext := ih (r := ⟨x :: r.reversed, r.length + 1⟩) (fun p _ hp => by
      have hp' := h (x :: p) (by simp) (List.cons_prefix_cons.mpr ⟨rfl, hp⟩)
      simpa [bytes] using hp') (by
        rw [List.length_cons] at hlen
        dsimp only
        omega)
    simp only [List.cons_append, feed, hpush, hnext]
    simp [Nat.add_comm, Nat.add_left_comm]

end HeadReader

/-- A head is read up to its first blank line; nothing behind it is touched. -/
theorem readHead_append {head : Bytes} (hend : blankLine <:+ head)
    (hfirst : ∀ p, p <+: head → blankLine <:+ p → p = head) (hlen : head.length ≤ maxHead + 1)
    (rest : Bytes) : readHead (head ++ rest) = (headText head, rest) := by
  have hne : head ≠ [] := by
    rintro rfl
    simp [blankLine] at hend
  have hsplit : head.dropLast ++ [head.getLast hne] = head := List.dropLast_concat_getLast hne
  -- The blank line is complete with the last byte of the head and not before, so all bytes but that
  -- one leave the reader open.
  have hopen : ∀ p, p ≠ [] → p <+: head.dropLast →
      ¬ blankLine <:+ HeadReader.bytes {} ++ p := by
    intro p _ hp hb
    have hp' := hfirst p (hp.trans (List.dropLast_prefix head)) hb
    have hle := hp.length_le
    rw [hp', List.length_dropLast] at hle
    have hpos := List.length_pos_iff.mpr hne
    omega
  have hroom : (HeadReader.length {}) + head.dropLast.length ≤ maxHead := by
    simp only [List.length_dropLast]
    omega
  have hfeed := HeadReader.feed_of_open hopen hroom (head.getLast hne :: rest)
  have hlast : HeadReader.push ⟨head.dropLast.reverse, 0 + head.dropLast.length⟩
      (head.getLast hne) = .complete head := by
    have hb : HeadReader.bytes ⟨head.dropLast.reverse, 0 + head.dropLast.length⟩ ++
        [head.getLast hne] = head := by
      simpa [HeadReader.bytes] using hsplit
    rw [HeadReader.push_of_blankLine (by rwa [hb]), hb]
  have hbytes : head ++ rest = head.dropLast ++ head.getLast hne :: rest := by
    conv_lhs => rw [← hsplit]
    simp
  rw [readHead, hbytes, hfeed]
  simp only [List.append_nil, HeadReader.feed, hlast]

theorem flatMap_ended_concat {ls : List Bytes} (hne : ls ≠ []) :
    ∃ before, ls.flatMap (· ++ [13, 10]) = before ++ [13, 10] := by
  have hsplit : ls.dropLast ++ [ls.getLast hne] = ls := List.dropLast_concat_getLast hne
  rw [← hsplit, List.flatMap_append]
  exact ⟨ls.dropLast.flatMap (· ++ [13, 10]) ++ ls.getLast hne, by simp⟩

/-- Lines that are not empty and hold no carriage return end nowhere but behind the last of them. -/
theorem eq_nil_of_blankLine {ls : List Bytes} (hne : ∀ l ∈ ls, l ≠ []) (hcr : ∀ l ∈ ls, 13 ∉ l)
    {before behind : Bytes}
    (h : before ++ (blankLine ++ behind) = ls.flatMap (· ++ [13, 10]) ++ [13, 10]) :
    behind = [] := by
  induction ls generalizing before with
  | nil =>
    have hlen := congrArg List.length h
    simp [blankLine] at hlen
    omega
  | cons l ls ih =>
    obtain ⟨hl, hls⟩ := List.forall_mem_cons.mp hne
    obtain ⟨hcl, hcls⟩ := List.forall_mem_cons.mp hcr
    -- What stands behind an end of line is the last blank line, or begins with another byte.
    have hnext : ∀ {bs : Bytes}, 13 :: 10 :: bs = ls.flatMap (· ++ [13, 10]) ++ [13, 10] →
        bs = [] := by
      intro bs hbs
      cases ls with
      | nil => simpa using hbs
      | cons l' ls =>
        obtain ⟨x, l', rfl⟩ := List.exists_cons_of_ne_nil (hls l' (by simp))
        have hx : 13 = x := by
          simp only [List.flatMap_cons, List.cons_append, List.cons.injEq] at hbs
          exact hbs.1
        exact absurd (by simp [hx]) (hcls (x :: l') (by simp))
    rw [List.flatMap_cons, List.append_assoc, List.append_assoc] at h
    rcases List.append_eq_append_iff.mp h with ⟨as, hl', has⟩ | ⟨cs, hb, hcs⟩
    · cases as with
      | nil =>
        simp only [blankLine, List.cons_append, List.nil_append, List.cons.injEq, true_and] at has
        exact hnext has
      | cons a as =>
        have ha : 13 = a := by
          simp only [blankLine, List.cons_append, List.cons.injEq] at has
          exact has.1
        exact absurd (by simp [hl', ha]) hcl
    · rcases cs with _ | ⟨c, _ | ⟨c', cs⟩⟩
      · simp only [blankLine, List.cons_append, List.nil_append, List.cons.injEq, true_and] at hcs
        exact hnext hcs.symm
      · simp [blankLine] at hcs
      · simp only [List.cons_append, List.nil_append, List.cons.injEq] at hcs
        exact ih hls hcls hcs.2.2.symm

/-- Lines as they stand in a head, each with its end. -/
def endedLines (ls : List (List Char)) : List Char := ls.flatMap (· ++ ['\r', '\n'])

theorem dropReturn_concat (l : List Char) : dropReturn (l ++ ['\r']) = l := by
  simp [dropReturn]

theorem lines_endedLines {ls : List (List Char)} (h : ∀ l ∈ ls, '\n' ∉ l) :
    lines (endedLines ls) = ls := by
  have hends : ls.flatMap (· ++ ['\r', '\n']) =
      (ls.map (· ++ ['\r'])).flatMap (· ++ ['\n']) := by
    simp [List.flatMap_map]
  have hpieces : ∀ p ∈ ls.map (· ++ ['\r']), '\n' ∉ p := by
    intro p hp
    obtain ⟨l, hl, rfl⟩ := List.mem_map.mp hp
    simpa using h l hl
  have hback : (ls.map (· ++ ['\r'])).map dropReturn = ls := by
    rw [List.map_map]
    exact (List.map_congr_left fun l _ => dropReturn_concat l).trans (List.map_id ls)
  simp [lines, endedLines, hends, Text.splitAll_flatMap hpieces, hback]

theorem words_cons (c : Char) (cs : List Char) :
    words (c :: cs) =
      if Text.isBlank c then words cs
      else
        match cs, words cs with
        | d :: _, w :: ws => if Text.isBlank d then [c] :: w :: ws else (c :: w) :: ws
        | _, ws => [c] :: ws := rfl

theorem words_blank_cons {b : Char} (hb : Text.isBlank b = true) (cs : List Char) :
    words (b :: cs) = words cs := by
  rw [words_cons, if_pos hb]

/-- A word goes on up to the next blank. -/
theorem words_cons_cons {c d : Char} (hc : Text.isBlank c = false) (hd : Text.isBlank d = false)
    {ds w : List Char} {ws : List (List Char)} (h : words (d :: ds) = w :: ws) :
    words (c :: d :: ds) = (c :: w) :: ws := by
  rw [words_cons, h]
  simp [hc, hd]

theorem words_append {w : List Char} (hne : w ≠ []) (hw : ∀ c ∈ w, Text.isBlank c = false)
    {b : Char} (hb : Text.isBlank b = true) (rest : List Char) :
    words (w ++ b :: rest) = w :: words rest := by
  induction w with
  | nil => exact absurd rfl hne
  | cons c cs ih =>
    obtain ⟨hc, hcs⟩ := List.forall_mem_cons.mp hw
    cases cs with
    | nil =>
      rw [List.cons_append, List.nil_append, words_cons, words_blank_cons hb]
      cases words rest <;> simp [hc, hb]
    | cons d ds => exact words_cons_cons hc (hcs d (by simp)) (ih (by simp) hcs)

theorem words_of_not_blank {w : List Char} (hne : w ≠ [])
    (hw : ∀ c ∈ w, Text.isBlank c = false) : words w = [w] := by
  induction w with
  | nil => exact absurd rfl hne
  | cons c cs ih =>
    obtain ⟨hc, hcs⟩ := List.forall_mem_cons.mp hw
    cases cs with
    | nil =>
      rw [words_cons, hc]
      rfl
    | cons d ds => exact words_cons_cons hc (hcs d (by simp)) (ih (by simp) hcs)

/-- A header that is read as it was written. -/
structure IsHeader (h : String × String) : Prop where
  name_ne : h.1 ≠ ""
  name_trimmed : Text.trim h.1 = h.1
  name_chars : ∀ c ∈ h.1.toList, c ≠ ':' ∧ c ≠ '\r' ∧ c ≠ '\n'
  value_trimmed : Text.trim h.2 = h.2
  value_chars : ∀ c ∈ h.2.toList, c ≠ '\r' ∧ c ≠ '\n'

def headerChars (h : String × String) : List Char := h.1.toList ++ ':' :: ' ' :: h.2.toList

/-- A first line and headers, and the blank line that ends them. -/
def headOf (first : List Char) (headers : List (String × String)) : String :=
  String.ofList (endedLines (first :: headers.map headerChars ++ [[]]))

/-- A line that can stand in a head. -/
structure IsLine (l : List Char) : Prop where
  ne_nil : l ≠ []
  no_return : '\r' ∉ l
  no_newline : '\n' ∉ l

namespace IsHeader

variable {h : String × String}

theorem isLine (hh : IsHeader h) : IsLine (headerChars h) where
  ne_nil := by simp [headerChars]
  no_return := by
    intro hm
    rcases List.mem_append.mp hm with hm | hm
    · exact (hh.name_chars _ hm).2.1 rfl
    · simp only [List.mem_cons, Char.reduceEq, false_or] at hm
      exact (hh.value_chars _ hm).1 rfl
  no_newline := by
    intro hm
    rcases List.mem_append.mp hm with hm | hm
    · exact (hh.name_chars _ hm).2.2 rfl
    · simp only [List.mem_cons, Char.reduceEq, false_or] at hm
      exact (hh.value_chars _ hm).2 rfl

theorem headerOf (hh : IsHeader h) : headerOf (headerChars h) = some h := by
  have hcolon : ':' ∉ h.1.toList := fun hm => (hh.name_chars _ hm).1 rfl
  have hname : String.ofList (Text.trimChars h.1.toList) = h.1 := hh.name_trimmed
  have hvalue : String.ofList (Text.trimChars h.2.toList) = h.2 := hh.value_trimmed
  have hblank : Text.isBlank ' ' = true := by decide
  simp [Handshake.headerOf, headerChars, Text.splitOnce_append hcolon,
    Text.trimChars_blank_cons hblank, hname, hvalue]

instance : DecidablePred IsHeader := fun h =>
  decidable_of_iff
    (h.1 ≠ "" ∧ Text.trim h.1 = h.1 ∧
      h.1.toList.all (fun c => c ≠ ':' ∧ c ≠ '\r' ∧ c ≠ '\n') = true ∧
      Text.trim h.2 = h.2 ∧ h.2.toList.all (fun c => c ≠ '\r' ∧ c ≠ '\n') = true)
    (by
      simp only [List.all_eq_true, decide_eq_true_eq]
      exact ⟨fun ⟨a, b, c, d, e⟩ => ⟨a, b, c, d, e⟩, fun ⟨a, b, c, d, e⟩ => ⟨a, b, c, d, e⟩⟩)

/-- Any value without a blank can follow a name. -/
theorem of_not_blank {name value : String} (hname : IsHeader (name, ""))
    (hvalue : ∀ c ∈ value.toList, Text.isBlank c = false) : IsHeader (name, value) where
  name_ne := hname.name_ne
  name_trimmed := hname.name_trimmed
  name_chars := hname.name_chars
  value_trimmed := by
    rw [Text.trim, Text.trimChars_of_not_blank hvalue, String.ofList_toList]
  value_chars := by
    intro c hc
    have hr : Text.isBlank '\r' = true := by decide
    have hn : Text.isBlank '\n' = true := by decide
    have hblank := hvalue c hc
    constructor
    · rintro rfl
      exact absurd (hr.symm.trans hblank) (by decide)
    · rintro rfl
      exact absurd (hn.symm.trans hblank) (by decide)

end IsHeader

section Reading

variable {first : List Char} {headers : List (String × String)}

theorem isLine_of_mem (hfirst : IsLine first) (hheaders : ∀ h ∈ headers, IsHeader h) :
    ∀ l ∈ first :: headers.map headerChars, IsLine l := by
  intro l hl
  rcases List.mem_cons.mp hl with rfl | hl
  · exact hfirst
  · obtain ⟨h, hh, rfl⟩ := List.mem_map.mp hl
    exact (hheaders h hh).isLine

theorem lines_headOf (hfirst : IsLine first) (hheaders : ∀ h ∈ headers, IsHeader h) :
    lines (headOf first headers).toList = first :: headers.map headerChars ++ [[]] := by
  rw [headOf, String.toList_ofList]
  apply lines_endedLines
  intro l hl
  rcases List.mem_append.mp hl with hl | hl
  · exact (isLine_of_mem hfirst hheaders l hl).no_newline
  · simp [List.mem_singleton.mp hl]

theorem headersOf_headOf (hfirst : IsLine first) (hheaders : ∀ h ∈ headers, IsHeader h) :
    headersOf (headOf first headers) = headers := by
  have hread : (headers.map headerChars).filterMap headerOf = headers := by
    induction headers with
    | nil => rfl
    | cons h hs ih =>
      obtain ⟨hh, hhs⟩ := List.forall_mem_cons.mp hheaders
      rw [List.map_cons, List.filterMap_cons, hh.headerOf, ih hhs]
  have hempty : [[]].filterMap headerOf = [] := rfl
  rw [headersOf, lines_headOf hfirst hheaders, List.cons_append, List.drop_succ_cons,
    List.drop_zero, List.filterMap_append, hread, hempty, List.append_nil]

theorem secondWord_headOf (hfirst : IsLine first) (hheaders : ∀ h ∈ headers, IsHeader h) :
    secondWord (headOf first headers) = (words first)[1]? := by
  simp [secondWord, lines_headOf hfirst hheaders]

theorem readHead_headOf (hfirst : IsLine first) (hheaders : ∀ h ∈ headers, IsHeader h)
    (hsize : Text.byteLength (headOf first headers) ≤ maxHead) (rest : Bytes) :
    readHead (Text.utf8 (headOf first headers) ++ rest) = (.ok (headOf first headers), rest) := by
  have hlines := isLine_of_mem hfirst hheaders
  -- The lines as bytes: they are not empty, and no byte of them is an end of line.
  have hbytes : Text.utf8 (headOf first headers) =
      ((first :: headers.map headerChars).map Text.encodeChars).flatMap (· ++ [13, 10]) ++
        [13, 10] := by
    have hcrlf : Text.encodeChars ['\r', '\n'] = [13, 10] := by decide
    rw [Text.utf8, headOf, String.toList_ofList, endedLines, List.flatMap_append,
      Text.encodeChars_append, List.flatMap_map]
    congr 1
    · generalize first :: headers.map headerChars = ls
      induction ls with
      | nil => rfl
      | cons l ls ih =>
        simp only [List.flatMap_cons, Text.encodeChars_append, ih, hcrlf]
  have hne : ∀ bs ∈ (first :: headers.map headerChars).map Text.encodeChars, bs ≠ [] := by
    intro bs hbs
    obtain ⟨l, hl, rfl⟩ := List.mem_map.mp hbs
    exact Text.encodeChars_ne_nil (hlines l hl).ne_nil
  have hcr : ∀ bs ∈ (first :: headers.map headerChars).map Text.encodeChars, 13 ∉ bs := by
    intro bs hbs hm
    obtain ⟨l, hl, rfl⟩ := List.mem_map.mp hbs
    exact (hlines l hl).no_return (Text.mem_of_mem_encodeChars hm (by decide))
  have hend : blankLine <:+ Text.utf8 (headOf first headers) := by
    rw [hbytes]
    have hne : (first :: headers.map headerChars).map Text.encodeChars ≠ [] := by simp
    obtain ⟨before, hbefore⟩ := flatMap_ended_concat hne
    rw [hbefore]
    exact ⟨before, by simp [blankLine]⟩
  have hfirstEnd : ∀ p, p <+: Text.utf8 (headOf first headers) → blankLine <:+ p →
      p = Text.utf8 (headOf first headers) := by
    rintro p ⟨behind, hp⟩ ⟨before, rfl⟩
    have hsplit : before ++ (blankLine ++ behind) =
        ((first :: headers.map headerChars).map Text.encodeChars).flatMap (· ++ [13, 10]) ++
          [13, 10] := by
      rw [← hbytes, ← hp, List.append_assoc]
    have hnil := eq_nil_of_blankLine hne hcr hsplit
    rw [← hp, hnil, List.append_nil]
  have htext : headText (Text.utf8 (headOf first headers)) = .ok (headOf first headers) := by
    simp [headText, Text.decodeUtf8_utf8]
  rw [readHead_append hend hfirstEnd (Nat.le_succ_of_le hsize), htext]

end Reading

end VenueGateway.Handshake
