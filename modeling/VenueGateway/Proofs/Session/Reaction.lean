import VenueGateway.Session.Inbound

namespace VenueGateway

namespace SessionOutput

def notice? : SessionOutput → Option SessionNotice
  | .notify n => some n
  | .send _ | .observe _ => none

/-- Notices of records only. -/
def IsInbound (o : SessionOutput) : Prop := ∀ n, o.notice? = some n → ∃ r, n = .record r

theorem exists_records {outputs : List SessionOutput} (h : ∀ o ∈ outputs, o.IsInbound) :
    ∃ records : List (Record Float), outputs.filterMap notice? = records.map .record := by
  induction outputs with
  | nil => exact ⟨[], rfl⟩
  | cons o os ih =>
    obtain ⟨ho, hos⟩ := List.forall_mem_cons.mp h
    obtain ⟨records, hrecords⟩ := ih hos
    cases hn : o.notice? with
    | none => exact ⟨records, by rw [List.filterMap_cons_none hn, hrecords]⟩
    | some n =>
      obtain ⟨r, rfl⟩ := ho n hn
      exact ⟨r :: records, by rw [List.filterMap_cons_some hn, hrecords, List.map_cons]⟩

end SessionOutput

namespace Session

/-- Another session as far as what arrives can change one. -/
def Inbound (s s' : Session) : Prop :=
  ∃ pending heartbeat, s' = { s with pending, heartbeat }

theorem Inbound.refl (s : Session) : Inbound s s := ⟨s.pending, s.heartbeat, rfl⟩

theorem Inbound.trans {s s' s'' : Session} (h : Inbound s s') (h' : Inbound s' s'') :
    Inbound s s'' := by
  obtain ⟨p, b, rfl⟩ := h
  obtain ⟨p', b', rfl⟩ := h'
  exact ⟨p', b', rfl⟩

/-- A reaction that keeps to what may happen to something inbound. -/
structure Answered (s : Session) (r : Reaction) : Prop where
  session : Inbound s r.session
  outputs : ∀ o ∈ r.outputs, o.IsInbound

theorem receiveText_answered (s : Session) (now : Int) (text : String) :
    Answered s (s.receiveText now text) := by
  unfold receiveText
  split
  · next reply _ =>
    exact ⟨.refl s, by simp [SessionOutput.IsInbound, SessionOutput.notice?]⟩
  · refine ⟨⟨_, s.heartbeat, rfl⟩, ?_⟩
    intro o ho n hn
    rcases List.mem_cons.mp ho with rfl | ho
    · simp [SessionOutput.notice?] at hn
    · split at ho
      · obtain ⟨r, _, rfl⟩ := List.mem_map.mp ho
        exact ⟨r, by simpa [SessionOutput.notice?] using hn.symm⟩
      · rw [List.mem_singleton.mp ho] at hn
        simp [SessionOutput.notice?] at hn

theorem receiveMessage_answered (s : Session) (now : Int) (m : Message) :
    Answered s (s.receiveMessage now m) := by
  have hsend : ∀ f : Frame, ∀ o ∈ [SessionOutput.send f], o.IsInbound := by
    intro f
    simp [SessionOutput.IsInbound, SessionOutput.notice?]
  have hnone : ∀ o ∈ ([] : List SessionOutput), o.IsInbound := by simp
  cases m with
  | text text => exact receiveText_answered s now text
  | binary payload =>
    simp only [receiveMessage]
    split
    · exact receiveText_answered s now _
    · exact ⟨.refl s, hnone⟩
  | ping payload => exact ⟨.refl s, hsend _⟩
  | pong payload => exact ⟨.refl s, hnone⟩
  | close details => exact ⟨.refl s, hsend _⟩

theorem receiveFrame_answered (s : Session) (a : Assembler) (now : Int) (f : Frame) :
    Answered s (s.receiveFrame a now f).1 := by
  have hseen : Inbound s { s with heartbeat := s.heartbeat.inbound } := ⟨s.pending, _, rfl⟩
  have hobserve : ∀ o : Observation, (SessionOutput.observe o).IsInbound := by
    intro o n hn
    simp [SessionOutput.notice?] at hn
  simp only [receiveFrame]
  split
  · exact ⟨hseen, by simpa using hobserve _⟩
  · next m _ _ =>
    obtain ⟨hsession, houtputs⟩ :=
      receiveMessage_answered { s with heartbeat := s.heartbeat.inbound } now m
    exact ⟨hseen.trans hsession, List.forall_mem_cons.mpr ⟨hobserve _, houtputs⟩⟩
  · exact ⟨hseen, by simpa using hobserve _⟩

theorem receiveFrames_answered (s : Session) (a : Assembler) (now : Int) (fs : List Frame) :
    Answered s (s.receiveFrames a now fs).1 := by
  induction fs generalizing s a with
  | nil => exact ⟨.refl s, by simp [receiveFrames]⟩
  | cons f fs ih =>
    obtain ⟨hsession, houtputs⟩ := receiveFrame_answered s a now f
    simp only [receiveFrames]
    split
    · exact ⟨hsession, houtputs⟩
    · obtain ⟨hrest, hmore⟩ := ih (s.receiveFrame a now f).1.session (s.receiveFrame a now f).2
      exact ⟨hsession.trans hrest, List.forall_mem_append.mpr ⟨houtputs, hmore⟩⟩

theorem receive_answered (s : Session) (inbox : Inbox) (now : Int) (bytes : Bytes) :
    Answered s (s.receive inbox now bytes).1 := by
  obtain ⟨hsession, houtputs⟩ := receiveFrames_answered s inbox.assembler now
    (Frame.decodeAll s.config.maxFrame (inbox.buffer ++ bytes)).frames
  exact ⟨hsession, houtputs⟩

end Session

end VenueGateway
