import VenueGateway.Proofs.WebSocket.Head

namespace VenueGateway.Handshake

variable {stream head : Bytes}

/-- The shortest front of a stream that ends with a blank line. -/
structure IsHead (stream head : Bytes) : Prop where
  isFront : head <+: stream
  ended : blankLine <:+ head
  shortest : ∀ p, p <+: stream → blankLine <:+ p → head.length ≤ p.length

theorem IsHead.eq_of_front (h : IsHead stream head) {p : Bytes} (hp : p <+: head)
    (hend : blankLine <:+ p) : p = head :=
  hp.eq_of_length_le (h.shortest p (hp.trans h.isFront) hend)

theorem exists_isHead {p : Bytes} (hp : p <+: stream) (hend : blankLine <:+ p) :
    ∃ head, IsHead stream head ∧ head.length ≤ p.length := by
  induction hlength : p.length using Nat.strongRecOn generalizing p with
  | _ n ih =>
    by_cases hshorter : ∃ q, q <+: stream ∧ blankLine <:+ q ∧ q.length < n
    · obtain ⟨q, hq, hqend, hlt⟩ := hshorter
      obtain ⟨head, hhead, hle⟩ := ih q.length hlt hq hqend rfl
      exact ⟨head, hhead, hle.trans (Nat.le_of_lt hlt)⟩
    · refine ⟨p, ⟨hp, hend, fun q hq hqend => ?_⟩, Nat.le_of_eq hlength⟩
      by_contra hlt
      exact hshorter ⟨q, hq, hqend, by omega⟩

theorem readHead_of_isHead (h : IsHead stream head) (hlen : head.length ≤ maxHead + 1) :
    ∃ rest, stream = head ++ rest ∧ readHead stream = (headText head, rest) := by
  obtain ⟨rest, rfl⟩ := h.isFront
  exact ⟨rest, rfl, readHead_append h.ended (fun p hp hend => h.eq_of_front hp hend) hlen rest⟩

/-- No front up to some length ends a head. -/
def OpenUpTo (n : Nat) (stream : Bytes) : Prop :=
  ∀ p, p <+: stream → p.length ≤ n → ¬ blankLine <:+ p

theorem openUpTo_iff {n : Nat} :
    OpenUpTo n stream ↔ ∀ head, IsHead stream head → n < head.length := by
  constructor
  · intro hopen head h
    by_contra hle
    exact hopen head h.isFront (Nat.le_of_not_lt hle) h.ended
  · intro hall p hp hle hend
    obtain ⟨head, h, hshort⟩ := exists_isHead hp hend
    exact absurd (hall head h) (by omega)

/-- The bytes of a head that is open are taken in, as long as there is room. -/
theorem feed_of_openUpTo {xs rest : Bytes} (h : OpenUpTo xs.length (xs ++ rest))
    (hlen : xs.length ≤ maxHead) :
    HeadReader.feed {} (xs ++ rest) = HeadReader.feed ⟨xs.reverse, xs.length⟩ rest := by
  have hopen : ∀ p, p ≠ [] → p <+: xs → ¬ blankLine <:+ HeadReader.bytes {} ++ p :=
    fun p _ hp => h p (hp.trans (List.prefix_append xs rest)) hp.length_le
  have hroom : (HeadReader.length {}) + xs.length ≤ maxHead := by simpa using hlen
  have hfeed := HeadReader.feed_of_open hopen hroom rest
  simpa using hfeed

theorem readHead_of_short (h : OpenUpTo stream.length stream) (hlen : stream.length ≤ maxHead) :
    readHead stream = (.error .closed, []) := by
  have hopen : OpenUpTo stream.length (stream ++ []) := by rwa [List.append_nil]
  have hfeed := feed_of_openUpTo hopen hlen
  rw [List.append_nil] at hfeed
  rw [readHead, hfeed]
  rfl

theorem readHead_of_long (h : OpenUpTo (maxHead + 1) stream) (hlen : maxHead < stream.length) :
    readHead stream = (.error .tooLarge, stream.drop (maxHead + 1)) := by
  -- The bytes up to the limit are taken in, and the one behind them is too much.
  have hfront : (stream.take maxHead).length = maxHead :=
    List.length_take_of_le (Nat.le_of_lt hlen)
  have hsplit : stream.take maxHead ++ stream[maxHead] :: stream.drop (maxHead + 1) = stream := by
    rw [← List.drop_eq_getElem_cons hlen, List.take_append_drop]
  have hopen : OpenUpTo (stream.take maxHead).length
      (stream.take maxHead ++ stream[maxHead] :: stream.drop (maxHead + 1)) := by
    rw [hsplit, hfront]
    exact fun p hp hle => h p hp (Nat.le_succ_of_le hle)
  have hfeed := feed_of_openUpTo hopen (Nat.le_of_eq hfront)
  rw [hsplit, hfront] at hfeed
  have hlast : ¬ blankLine <:+
      HeadReader.bytes ⟨(stream.take maxHead).reverse, maxHead⟩ ++ [stream[maxHead]] := by
    have hbytes : HeadReader.bytes ⟨(stream.take maxHead).reverse, maxHead⟩ ++
        [stream[maxHead]] = stream.take (maxHead + 1) := by
      rw [HeadReader.bytes, List.reverse_reverse, List.take_concat_get' stream maxHead hlen]
    rw [hbytes]
    exact h _ (List.take_prefix _ _) (List.length_take_le _ _)
  have hpush := HeadReader.push_of_open hlast
  rw [if_pos (Nat.lt_succ_self maxHead)] at hpush
  rw [readHead, hfeed, HeadReader.feed, hpush]

/-- Every stream comes to one of these: a head that fits, more than fits, or an end before that. -/
theorem readHead_cases (stream : Bytes) :
    (∃ head rest, IsHead stream head ∧ head.length ≤ maxHead + 1 ∧ stream = head ++ rest ∧
      readHead stream = (headText head, rest)) ∨
    (OpenUpTo (maxHead + 1) stream ∧ maxHead < stream.length ∧
      readHead stream = (.error .tooLarge, stream.drop (maxHead + 1))) ∨
    (OpenUpTo stream.length stream ∧ stream.length ≤ maxHead ∧
      readHead stream = (.error .closed, [])) := by
  -- Either a head ends within the limit, or the stream goes on beyond it, or the stream ends first.
  by_cases hopen : OpenUpTo (maxHead + 1) stream
  · by_cases hlen : maxHead < stream.length
    · exact .inr (.inl ⟨hopen, hlen, readHead_of_long hopen hlen⟩)
    · have hshort : OpenUpTo stream.length stream :=
        fun p hp hle => hopen p hp (by omega)
      exact .inr (.inr ⟨hshort, Nat.le_of_not_lt hlen,
        readHead_of_short hshort (Nat.le_of_not_lt hlen)⟩)
  · rw [openUpTo_iff] at hopen
    push Not at hopen
    obtain ⟨head, hhead, hlen⟩ := hopen
    obtain ⟨rest, hrest, hread⟩ := readHead_of_isHead hhead hlen
    exact .inl ⟨head, rest, hhead, hlen, hrest, hread⟩

theorem headText_eq_ok_iff {s : String} : headText head = .ok s ↔ Text.utf8 s = head := by
  unfold headText
  constructor
  · intro h
    cases hs : Text.decodeUtf8 head with
    | none =>
      rw [hs] at h
      cases h
    | some s' =>
      rw [hs] at h
      cases h
      exact Text.utf8_of_decodeUtf8 hs
  · rintro rfl
    rw [Text.decodeUtf8_utf8]

theorem headText_eq_error_iff {e : HeadError} :
    headText head = .error e ↔ e = .notText ∧ ∀ s, Text.utf8 s ≠ head := by
  -- The text of a head fails only when the bytes are not the ones of any text.
  constructor
  · intro h
    have hnot : ∀ s, Text.utf8 s ≠ head := by
      intro s hs
      rw [headText_eq_ok_iff.mpr hs] at h
      cases h
    unfold headText at h
    split at h
    · cases h
    · cases h
      exact ⟨rfl, hnot⟩
  · rintro ⟨rfl, hnot⟩
    cases h : headText head with
    | ok s => exact absurd (headText_eq_ok_iff.mp h) (hnot s)
    | error e =>
      unfold headText at h
      split at h <;> cases h
      rfl

theorem readHead_eq_ok_iff {s : String} {rest : Bytes} :
    readHead stream = (.ok s, rest) ↔
      IsHead stream (Text.utf8 s) ∧ (Text.utf8 s).length ≤ maxHead + 1 ∧
        stream = Text.utf8 s ++ rest := by
  constructor
  · intro h
    rcases readHead_cases stream with ⟨head, behind, hhead, hlen, hstream, hread⟩ |
      ⟨-, -, hread⟩ | ⟨-, -, hread⟩ <;> rw [h, Prod.mk.injEq] at hread
    · obtain ⟨htext, rfl⟩ := hread
      rw [headText_eq_ok_iff.mp htext.symm]
      exact ⟨hhead, hlen, hstream⟩
    · cases hread.1
    · cases hread.1
  · rintro ⟨hhead, hlen, hstream⟩
    obtain ⟨behind, hbehind, hread⟩ := readHead_of_isHead hhead hlen
    rw [hread, headText_eq_ok_iff.mpr rfl, List.append_cancel_left (hbehind.symm.trans hstream)]

theorem readHead_eq_notText_iff {rest : Bytes} :
    readHead stream = (.error .notText, rest) ↔
      ∃ head, IsHead stream head ∧ head.length ≤ maxHead + 1 ∧ (∀ s, Text.utf8 s ≠ head) ∧
        stream = head ++ rest := by
  constructor
  · intro h
    rcases readHead_cases stream with ⟨head, behind, hhead, hlen, hstream, hread⟩ |
      ⟨-, -, hread⟩ | ⟨-, -, hread⟩ <;> rw [h, Prod.mk.injEq] at hread
    · obtain ⟨htext, rfl⟩ := hread
      exact ⟨head, hhead, hlen, (headText_eq_error_iff.mp htext.symm).2, hstream⟩
    · cases hread.1
    · cases hread.1
  · rintro ⟨head, hhead, hlen, hnot, hstream⟩
    obtain ⟨behind, hbehind, hread⟩ := readHead_of_isHead hhead hlen
    rw [hread, headText_eq_error_iff.mpr ⟨rfl, hnot⟩,
      List.append_cancel_left (hbehind.symm.trans hstream)]

theorem headText_ne_tooLarge : headText head ≠ .error .tooLarge := fun h => by
  cases (headText_eq_error_iff.mp h).1

theorem headText_ne_closed : headText head ≠ .error .closed := fun h => by
  cases (headText_eq_error_iff.mp h).1

theorem readHead_eq_tooLarge_iff {rest : Bytes} :
    readHead stream = (.error .tooLarge, rest) ↔
      (∀ head, IsHead stream head → maxHead + 1 < head.length) ∧ maxHead < stream.length ∧
        rest = stream.drop (maxHead + 1) := by
  rw [← openUpTo_iff]
  constructor
  · intro h
    rcases readHead_cases stream with ⟨head, behind, -, -, -, hread⟩ |
      ⟨hopen, hlen, hread⟩ | ⟨-, -, hread⟩ <;> rw [h, Prod.mk.injEq] at hread
    · exact absurd hread.1.symm headText_ne_tooLarge
    · exact ⟨hopen, hlen, hread.2⟩
    · cases hread.1
  · rintro ⟨hopen, hlen, rfl⟩
    exact readHead_of_long hopen hlen

theorem readHead_eq_closed_iff {rest : Bytes} :
    readHead stream = (.error .closed, rest) ↔
      (∀ head, ¬ IsHead stream head) ∧ stream.length ≤ maxHead ∧ rest = [] := by
  have hnone : (∀ head, ¬ IsHead stream head) ↔ OpenUpTo stream.length stream := by
    rw [openUpTo_iff]
    exact forall_congr' fun head => ⟨fun h hhead => absurd hhead h,
      fun h hhead => Nat.not_lt.mpr hhead.isFront.length_le (h hhead)⟩
  rw [hnone]
  constructor
  · intro h
    rcases readHead_cases stream with ⟨head, behind, -, -, -, hread⟩ |
      ⟨-, -, hread⟩ | ⟨hopen, hlen, hread⟩ <;> rw [h, Prod.mk.injEq] at hread
    · exact absurd hread.1.symm headText_ne_closed
    · cases hread.1
    · exact ⟨hopen, hlen, hread.2⟩
  · rintro ⟨hopen, hlen, rfl⟩
    exact readHead_of_short hopen hlen

theorem readHead_used (stream : Bytes) :
    ∃ used, stream = used ++ (readHead stream).2 ∧ used.length ≤ maxHead + 1 := by
  rcases readHead_cases stream with ⟨head, rest, -, hlen, hstream, hread⟩ |
    ⟨-, -, hread⟩ | ⟨-, hlen, hread⟩ <;> rw [hread]
  · exact ⟨head, hstream, hlen⟩
  · exact ⟨stream.take (maxHead + 1), (List.take_append_drop _ _).symm, List.length_take_le _ _⟩
  · exact ⟨stream, (List.append_nil stream).symm, Nat.le_succ_of_le hlen⟩

/-- A head is read if and only if the stream has a front that ends with a blank line, the shortest
such front is text and is at most one byte longer than the limit; then exactly its bytes are used.
A head of that size that is no text is refused as such, a longer one once that many bytes are there,
and the end of a stream that holds neither is refused as well. No more than one byte behind the
limit is ever used. -/
theorem readHead_exact (stream : Bytes) :
    (∀ s rest, readHead stream = (.ok s, rest) ↔
      IsHead stream (Text.utf8 s) ∧ (Text.utf8 s).length ≤ maxHead + 1 ∧
        stream = Text.utf8 s ++ rest) ∧
    (∀ rest, readHead stream = (.error .notText, rest) ↔
      ∃ head, IsHead stream head ∧ head.length ≤ maxHead + 1 ∧ (∀ s, Text.utf8 s ≠ head) ∧
        stream = head ++ rest) ∧
    (∀ rest, readHead stream = (.error .tooLarge, rest) ↔
      (∀ head, IsHead stream head → maxHead + 1 < head.length) ∧ maxHead < stream.length ∧
        rest = stream.drop (maxHead + 1)) ∧
    (∀ rest, readHead stream = (.error .closed, rest) ↔
      (∀ head, ¬ IsHead stream head) ∧ stream.length ≤ maxHead ∧ rest = []) ∧
    ∃ used, stream = used ++ (readHead stream).2 ∧ used.length ≤ maxHead + 1 :=
  ⟨fun _ _ => readHead_eq_ok_iff, fun _ => readHead_eq_notText_iff,
    fun _ => readHead_eq_tooLarge_iff, fun _ => readHead_eq_closed_iff, readHead_used stream⟩

/-- A line of one letter over and over, and the blank line behind it. -/
def longHead (n : Nat) : Bytes := List.replicate n 0x61 ++ blankLine

theorem length_longHead (n : Nat) : (longHead n).length = n + 4 := by
  rw [longHead, List.length_append, List.length_replicate]
  rfl

theorem isHead_longHead {n : Nat} (hn : n ≠ 0) : IsHead (longHead n) (longHead n) := by
  refine ⟨List.prefix_refl _, List.suffix_append _ _, ?_⟩
  rintro p ⟨behind, hp⟩ ⟨before, rfl⟩
  have hlines : before ++ (blankLine ++ behind) =
      [List.replicate n 0x61].flatMap (· ++ [13, 10]) ++ [13, 10] := by
    rw [← List.append_assoc, hp]
    simp [longHead, blankLine]
  have hbehind := eq_nil_of_blankLine (by simpa using hn) (by simp) hlines
  rw [← hp, hbehind, List.append_nil]

theorem longHead_eq_utf8 (n : Nat) : ∃ s, Text.utf8 s = longHead n := by
  refine ⟨String.ofList (List.replicate n 'a' ++ ['\r', '\n', '\r', '\n']), ?_⟩
  have hletters : Text.encodeChars (List.replicate n 'a') = List.replicate n 0x61 := by
    induction n with
    | zero => rfl
    | succ n ih =>
      rw [List.replicate_succ, List.replicate_succ, ← ih]
      rfl
  rw [Text.utf8, String.toList_ofList, Text.encodeChars_append, hletters]
  rfl

/-- A head that is one byte longer than the limit is read. -/
theorem long_head_read :
    let head := longHead (maxHead - 3)
    IsHead head head ∧ head.length = 16 * 1024 + 1 ∧ ∃ s, readHead head = (.ok s, []) := by
  intro head
  have hhead : IsHead head head := isHead_longHead (by decide)
  have hlength : head.length = maxHead + 1 := length_longHead (maxHead - 3)
  obtain ⟨s, hs⟩ := longHead_eq_utf8 (maxHead - 3)
  refine ⟨hhead, hlength, s, readHead_eq_ok_iff.mpr ⟨?_, ?_, ?_⟩⟩
  · rwa [hs]
  · rw [hs]
    exact Nat.le_of_eq hlength
  · rw [hs, List.append_nil]

end VenueGateway.Handshake
