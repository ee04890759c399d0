import VenueGateway.Proofs.Session.Line

namespace VenueGateway

namespace WorkerStage

/-- Whether there is a connection, or an attempt to get one. -/
inductive Level where
  | off
  | down
  | up
deriving DecidableEq, Repr

def level : WorkerStage → Level
  | .off => .off
  | .connecting | .resting => .down
  | .upgraded | .greeting | .loggedIn | .replaying _ | .serving _ | .broken _ => .up

theorem eq_off_of_level {stage : WorkerStage} (h : stage.level = .off) : stage = .off := by
  cases stage <;> first | rfl | cases h

end WorkerStage

namespace Line

/-- All that a step can do to what the worker has told. -/
inductive Turn (l l' : Line) : Prop
  | keep (hlevel : l'.stage.level = l.stage.level) (hworker : l'.worker = l.worker)
      (hanswer : l'.answer = l.answer) (hnotices : l'.notices = l.notices)
      (hstate : l.stage = .off → l'.session.state = l.session.state)
  | record (records : List (Record Float)) (hup : l.stage.level = .up)
      (hlevel : l'.stage.level = .up) (hworker : l'.worker = l.worker)
      (hanswer : l'.answer = l.answer) (hnotices : l'.notices = l.notices ++ records.map .record)
  | halt (hup : l.stage.level = .up) (hlevel : l'.stage = .off) (hworker : l'.worker = l.worker)
      (hanswer : l'.answer = l.answer) (hnotices : l'.notices = l.notices)
  | establish (hdown : l.stage.level = .down) (hlevel : l'.stage.level = .up)
      (hworker : l'.worker = ⟨l.worker.policy.reset, true⟩)
      (hanswer : l'.answer = l.answer.or (some (.ok ())))
      (hnotices : l'.notices = l.notices ++
        [if l.worker.hasConnected then .reconnected l.worker.policy.attempt else .connected])
  | refuse (e : GatewayError) (hdown : l.stage.level = .down)
      (hfirst : l.worker.hasConnected = false) (hoff : l'.stage = .off)
      (hanswer : l'.answer = l.answer.or (some (.error e))) (hstate : l'.session.state = .error)
      (hnotices : l'.notices = l.notices ++ [.connectFailed e])
  | retry (notice : SessionNotice)
      (h : (∃ e, notice = .connectFailed e ∧ l.stage.level = .down ∧
          l.worker.hasConnected = true) ∨
        ∃ reason, notice = .disconnected reason ∧ l.stage.level = .up)
      (hleft : l.worker.policy.attempt < l.worker.policy.maxAttempts)
      (hlevel : l'.stage.level = .down) (hanswer : l.answer.isSome → l'.answer = l.answer)
      (hworker : l'.worker = { l.worker with
        policy := { l.worker.policy with attempt := l.worker.policy.attempt + 1 } })
      (hnotices : l'.notices = l.notices ++ [notice])
  | giveUp (notice : SessionNotice)
      (h : (∃ e, notice = .connectFailed e ∧ l.stage.level = .down ∧
          l.worker.hasConnected = true) ∨
        ∃ reason, notice = .disconnected reason ∧ l.stage.level = .up)
      (hnone : l.worker.policy.maxAttempts ≤ l.worker.policy.attempt) (hoff : l'.stage = .off)
      (hanswer : l.answer.isSome → l'.answer = l.answer)
      (hstate : l'.session.state = .error)
      (hnotices : l'.notices = l.notices ++ [notice, .gaveUp l.worker.policy.attempt])

variable {l : Line}

theorem Turn.of_up {l' : Line} (hup : l.stage.level = .up) (hlevel : l'.stage.level = .up)
    (hworker : l'.worker = l.worker) (hanswer : l'.answer = l.answer)
    (hnotices : l'.notices = l.notices) : Turn l l' := by
  refine .keep (hlevel.trans hup.symm) hworker hanswer hnotices fun hoff => ?_
  rw [hoff] at hup
  cases hup

/-- A write changes nothing of it: the worker goes on, or has a reason to end the connection. -/
theorem write_turn {l' : Line} (d : Dispatch) (failure : Option String) (context : String)
    {next : WorkerStage} (hup : l.stage.level = .up) (hnext : next.level = .up)
    (hworker : l'.worker = l.worker) (hanswer : l'.answer = l.answer)
    (hnotices : l'.notices = l.notices) : Turn l (l'.write d failure context next) := by
  cases failure with
  | none => exact .of_up hup hnext hworker hanswer hnotices
  | some error => exact .of_up hup rfl hworker hanswer hnotices

theorem establish_turn (hdown : l.stage.level = .down) : Turn l l.establish :=
  .establish hdown rfl rfl rfl rfl

theorem failAttempt_turn (e : SessionError) (noise : Float) (hdown : l.stage.level = .down) :
    Turn l (l.failAttempt e noise) := by
  have hanswer : ∀ x : Except GatewayError Unit,
      l.answer.isSome → l.answer.or (some x) = l.answer := by
    intro x h
    cases hl : l.answer with
    | none => simp [hl] at h
    | some y => rfl
  unfold failAttempt Session.attemptFailed
  -- The first attempt ends the line when it fails; a later one backs off or is the last.
  cases hconnected : l.worker.hasConnected with
  | false => exact .refuse _ hdown hconnected rfl rfl rfl rfl
  | true =>
    rcases (l.session.enter .error).1.backOff_cases l.worker noise with
      ⟨hleft, millis, o, hb⟩ | ⟨hnone, o, hb⟩
    · simp only [if_true, hb]
      exact .retry _ (.inl ⟨_, rfl, hdown, hconnected⟩) hleft rfl (hanswer _) rfl rfl
    · simp only [if_true, hb]
      exact .giveUp _ (.inl ⟨_, rfl, hdown, hconnected⟩) hnone rfl (hanswer _) rfl rfl

theorem fault_turn (noise : Float) (reason : String) (hup : l.stage.level = .up) :
    Turn l (l.fault noise reason) := by
  unfold fault Session.faulted
  rcases (l.session.closeQueue.enter .connecting).1.backOff_cases l.worker noise with
    ⟨hleft, millis, o, hb⟩ | ⟨hnone, o, hb⟩
  · simp only [hb]
    exact .retry _ (.inr ⟨reason, rfl, hup⟩) hleft rfl (fun _ => rfl) rfl rfl
  · simp only [hb]
    exact .giveUp _ (.inr ⟨reason, rfl, hup⟩) hnone rfl (fun _ => rfl) rfl rfl

theorem receive_turn (inbox : Inbox) (now : Int) (bytes : Bytes)
    (failure : Option (Nat × String)) (hup : l.stage.level = .up) :
    Turn l (l.receive inbox now bytes failure) := by
  obtain ⟨_, houtputs⟩ := l.session.receiveOver_answered inbox now bytes failure
  obtain ⟨records, hrecords⟩ := SessionOutput.exists_records houtputs
  refine .record records hup ?_ rfl rfl (congrArg (l.notices ++ ·) hrecords)
  simp only [receive, put]
  cases (l.session.receiveOver inbox now bytes failure).1.fault <;> rfl

theorem resend_turn (failure : Option String) (left : List Letter) (hup : l.stage.level = .up) :
    Turn l (l.resend failure left) := by
  cases left with
  | nil =>
    simp only [resend, serve]
    split
    · exact .halt hup rfl rfl rfl rfl
    · exact .of_up hup rfl rfl rfl rfl
  | cons letter left => exact write_turn _ failure _ hup rfl rfl rfl rfl

theorem login_turn (failure : Option String) (hup : l.stage.level = .up) :
    Turn l (l.login failure) := by
  simp only [login, Session.login_eq]
  split
  · exact .of_up hup rfl rfl rfl rfl
  · exact write_turn _ failure _ hup rfl rfl rfl rfl

theorem drain_turn (failure : Option String) (hup : l.stage.level = .up) :
    Turn l (l.drain failure) := by
  unfold drain
  split
  · exact .of_up hup hup rfl rfl rfl
  · exact write_turn _ failure _ hup hup rfl rfl rfl

theorem refresh_turn (failure : Option String) (hup : l.stage.level = .up) :
    Turn l (l.refresh failure) := by
  simp only [refresh, Session.refresh_eq]
  split
  · exact .of_up hup hup rfl rfl rfl
  · exact write_turn _ failure _ hup hup rfl rfl rfl

/-- Callers have no part in what the worker tells. -/
theorem change_turn (name : String) (action : SubscriptionAction) :
    Turn l (l.change name action) := by
  obtain ⟨changed, subscriptions, hset⟩ := l.session.changeSet_eq (Text.trim name) action
  simp only [change, hset]
  split
  · exact .keep rfl rfl rfl rfl fun _ => rfl
  · split <;> exact .keep rfl rfl rfl rfl fun _ => rfl

theorem goOn_turn (n : Nat) : Turn l (l.goOn n) := by
  unfold goOn
  split
  · exact .keep rfl rfl rfl rfl fun _ => rfl
  · next c _ =>
    have hstate : (l.next c).2.1.state = l.session.state := by
      have h := l.next_advance c
      generalize l.next c = step at h ⊢
      cases h <;> rfl
    exact .keep rfl rfl rfl rfl fun _ => hstate

theorem act_turn (l : Line) {a : LineAction} (ha : a.isControl = false) : Turn l (l.act a) := by
  have hlevel : ∀ {stage : WorkerStage}, l.stage = stage → l.stage.level = stage.level :=
    fun h => congrArg _ h
  have h := l.act_effect a
  generalize l.act a = l' at h ⊢
  -- One turn for each effect. Those that tell nothing keep what was told; the others lose, mend or
  -- end the connection.
  cases h with
  | idle => exact .keep rfl rfl rfl rfl fun _ => rfl
  | connect | leave | stop | left => cases ha
  | failAttempt e noise hs => exact failAttempt_turn e noise (hlevel hs)
  | establish hs => exact establish_turn (hlevel hs)
  | openQueue hs => exact .of_up (hlevel hs) rfl rfl rfl rfl
  | login failure hs => exact login_turn failure (hlevel hs)
  | snapshot hs => exact .of_up (hlevel hs) rfl rfl rfl rfl
  | resend failure left hs => exact resend_turn failure left (hlevel hs)
  | receive now bytes failure inbox hs => exact receive_turn inbox now bytes failure (hlevel hs)
  | finish inbox hs => exact .of_up (hlevel hs) rfl rfl rfl rfl
  | drain failure inbox hs => exact drain_turn failure (hlevel hs)
  | ping elapsed failure inbox hs =>
    exact write_turn _ failure _ (hlevel hs) (hlevel hs) rfl rfl rfl
  | refresh failure inbox hs => exact refresh_turn failure (hlevel hs)
  | timeOut inbox hs => exact .of_up (hlevel hs) rfl rfl rfl rfl
  | closeQueue reason hs => exact .of_up (hlevel hs) (hlevel hs) rfl rfl rfl
  | fault noise reason hs => exact fault_turn noise reason (hlevel hs)
  | wake hs =>
    refine .keep (hlevel hs).symm rfl rfl rfl fun hoff => ?_
    rw [hs] at hoff
    cases hoff
  | change name action => exact change_turn name action
  | post text => exact .keep rfl rfl rfl rfl fun _ => rfl
  | goOn n => exact goOn_turn n
  | takeNumber | prepare number v => exact .keep rfl rfl rfl rfl fun _ => rfl

/-- A loss of the connection that an attempt made good, and what came in after it. -/
structure Outage where
  reason : String
  failures : List GatewayError
  records : List (Record Float)

/-- The loss of the connection, and the attempts in vain to get it back. -/
def loss (reason : String) (failures : List GatewayError) : List SessionNotice :=
  .disconnected reason :: failures.map .connectFailed

def Outage.notices (o : Outage) : List SessionNotice :=
  loss o.reason o.failures ++ .reconnected (o.failures.length + 1) :: o.records.map .record

/-- A connection with what came in on it, and all its outages so far. -/
def story (records : List (Record Float)) (outages : List Outage) : List SessionNotice :=
  .connected :: records.map .record ++ outages.flatMap Outage.notices

theorem story_append_records (records : List (Record Float)) {outages : List Outage}
    {attempts : Nat} (h : ∀ o ∈ outages, o.failures.length < attempts)
    (more : List (Record Float)) :
    ∃ records' outages', (∀ o ∈ outages', o.failures.length < attempts) ∧
      story records outages ++ more.map .record = story records' outages' := by
  rcases List.eq_nil_or_concat outages with rfl | ⟨before, last, rfl⟩
  · exact ⟨records ++ more, [], h, by simp [story]⟩
  · rw [List.concat_eq_append] at h ⊢
    obtain ⟨hbefore, hlast⟩ := List.forall_mem_append.mp h
    refine ⟨records, before ++ [{ last with records := last.records ++ more }], ?_, ?_⟩
    · exact List.forall_mem_append.mpr ⟨hbefore, by simpa using hlast⟩
    · simp [story, Outage.notices]

theorem story_append_reconnected (records : List (Record Float)) (outages : List Outage)
    (reason : String) (failures : List GatewayError) :
    story records outages ++ loss reason failures ++ [.reconnected (failures.length + 1)] =
      story records (outages ++ [⟨reason, failures, []⟩]) := by
  simp [story, Outage.notices]

/-- A worker that has connected, and how many attempts its policy has counted since. -/
structure Counting (w : Worker) (attempts attempt : Nat) : Prop where
  hasConnected : w.hasConnected = true
  maxAttempts : w.policy.maxAttempts = attempts
  attempt : w.policy.attempt = attempt

/-- What a worker has told, with where it is. -/
inductive Told (attempts : Nat) (l : Line) : Prop
  | waiting (hlevel : l.stage.level = .down) (hfirst : l.worker.hasConnected = false)
      (hattempt : l.worker.policy.maxAttempts = attempts) (hanswer : l.answer = none)
      (hnotices : l.notices = [])
  | refused (e : GatewayError) (hoff : l.stage = .off) (hstate : l.session.state = .error)
      (hanswer : l.answer = some (.error e)) (hnotices : l.notices = [.connectFailed e])
  | up (records : List (Record Float)) (outages : List Outage)
      (houtages : ∀ o ∈ outages, o.failures.length < attempts)
      (hlevel : l.stage.level = .up ∧ Counting l.worker attempts 0 ∨ l.stage = .off)
      (hanswer : l.answer = some (.ok ())) (hnotices : l.notices = story records outages)
  | down (records : List (Record Float)) (outages : List Outage) (reason : String)
      (failures : List GatewayError) (houtages : ∀ o ∈ outages, o.failures.length < attempts)
      (hfailures : failures.length < attempts) (hlevel : l.stage.level = .down)
      (hworker : Counting l.worker attempts (failures.length + 1))
      (hanswer : l.answer = some (.ok ()))
      (hnotices : l.notices = story records outages ++ loss reason failures)
  | spent (records : List (Record Float)) (outages : List Outage) (reason : String)
      (failures : List GatewayError) (houtages : ∀ o ∈ outages, o.failures.length < attempts)
      (hfailures : failures.length = attempts) (hoff : l.stage = .off)
      (hstate : l.session.state = .error) (hanswer : l.answer = some (.ok ()))
      (hnotices : l.notices =
        story records outages ++ loss reason failures ++ [.gaveUp attempts])

section Told

variable {attempts : Nat}

theorem Told.of_up (h : Told attempts l) (hup : l.stage.level = .up) :
    ∃ records outages, (∀ o ∈ outages, o.failures.length < attempts) ∧
      Counting l.worker attempts 0 ∧ l.answer = some (.ok ()) ∧
      l.notices = story records outages := by
  have hoff : l.stage ≠ .off := by
    intro h
    rw [h] at hup
    cases hup
  cases h with
  | waiting hlevel => rw [hlevel] at hup; cases hup
  | refused e h => exact absurd h hoff
  | up records outages houtages hlevel hanswer hnotices =>
    rcases hlevel with ⟨_, hworker⟩ | h
    · exact ⟨records, outages, houtages, hworker, hanswer, hnotices⟩
    · exact absurd h hoff
  | down _ _ _ _ _ _ hlevel => rw [hlevel] at hup; cases hup
  | spent _ _ _ _ _ _ h => exact absurd h hoff

theorem Told.of_down (h : Told attempts l) (hdown : l.stage.level = .down) :
    (l.worker.hasConnected = false ∧ l.worker.policy.maxAttempts = attempts ∧ l.answer = none ∧
      l.notices = []) ∨
    ∃ records outages reason failures, (∀ o ∈ outages, o.failures.length < attempts) ∧
      failures.length < attempts ∧ Counting l.worker attempts (failures.length + 1) ∧
      l.answer = some (.ok ()) ∧ l.notices = story records outages ++ loss reason failures := by
  have hoff : l.stage ≠ .off := by
    intro h
    rw [h] at hdown
    cases hdown
  -- A line that is down waits for its first connection or for its next one.
  cases h with
  | waiting _ hfirst hmax ha hn => exact .inl ⟨hfirst, hmax, ha, hn⟩
  | down records outages reason failures houtages hfailures _ hw ha hn =>
    exact .inr ⟨records, outages, reason, failures, houtages, hfailures, hw, ha, hn⟩
  | refused e h => exact absurd h hoff
  | up _ _ _ h =>
    rcases h with ⟨h, _⟩ | h
    · rw [h] at hdown
      cases hdown
    · exact absurd h hoff
  | spent _ _ _ _ _ _ h => exact absurd h hoff

theorem Told.keep {l' : Line} (h : Told attempts l) (hlevel : l'.stage.level = l.stage.level)
    (hworker : l'.worker = l.worker) (hanswer : l'.answer = l.answer)
    (hnotices : l'.notices = l.notices)
    (hstate : l.stage = .off → l'.session.state = l.session.state) : Told attempts l' := by
  have hoff : l.stage = .off → l'.stage = .off := by
    intro h
    rw [h] at hlevel
    exact WorkerStage.eq_off_of_level hlevel
  -- The story speaks of the level, the worker, the answer and the notices alone, and all four are
  -- kept.
  cases h with
  | waiting h hfirst hattempt ha hn =>
    exact .waiting (hlevel.trans h) (by rw [hworker, hfirst]) (by rw [hworker, hattempt])
      (hanswer.trans ha) (hnotices.trans hn)
  | refused e h hs ha hn =>
    exact .refused e (hoff h) ((hstate h).trans hs) (hanswer.trans ha) (hnotices.trans hn)
  | up records outages houtages h ha hn =>
    refine .up records outages houtages ?_ (hanswer.trans ha) (hnotices.trans hn)
    rw [hlevel, hworker]
    exact h.imp_right hoff
  | down records outages reason failures houtages hfailures h hw ha hn =>
    exact .down records outages reason failures houtages hfailures (hlevel.trans h)
      (by rwa [hworker]) (hanswer.trans ha) (hnotices.trans hn)
  | spent records outages reason failures houtages hfailures h hs ha hn =>
    exact .spent records outages reason failures houtages hfailures (hoff h)
      ((hstate h).trans hs) (hanswer.trans ha) (hnotices.trans hn)

theorem Told.establish {l' : Line} (h : Told attempts l) (hdown : l.stage.level = .down)
    (hlevel : l'.stage.level = .up) (hworker : l'.worker = ⟨l.worker.policy.reset, true⟩)
    (hanswer : l'.answer = l.answer.or (some (.ok ())))
    (hnotices : l'.notices = l.notices ++
      [if l.worker.hasConnected then .reconnected l.worker.policy.attempt else .connected]) :
    Told attempts l' := by
  have hcount : l.worker.policy.maxAttempts = attempts → Counting l'.worker attempts 0 := by
    intro hmax
    rw [hworker]
    exact ⟨rfl, hmax, rfl⟩
  -- The first connection begins the story; a later one closes the outage it ends.
  rcases h.of_down hdown with ⟨hfirst, hmax, ha, hn⟩ |
    ⟨records, outages, reason, failures, houtages, hfailures, hw, ha, hn⟩
  · refine .up [] [] (by simp) (.inl ⟨hlevel, hcount hmax⟩) ?_ ?_
    · rw [hanswer, ha]
      rfl
    · rw [hnotices, hn, hfirst]
      rfl
  · refine .up records (outages ++ [⟨reason, failures, []⟩]) ?_
      (.inl ⟨hlevel, hcount hw.maxAttempts⟩) ?_ ?_
    · exact List.forall_mem_append.mpr ⟨houtages, by simpa using hfailures⟩
    · rw [hanswer, ha]
      rfl
    · rw [hnotices, hn, hw.hasConnected, hw.attempt, if_pos rfl, story_append_reconnected]

/-- The tale of a loss goes on with another failure, or begins. -/
theorem Told.loss (h : Told attempts l) {notice : SessionNotice}
    (hnotice : (∃ e, notice = .connectFailed e ∧ l.stage.level = .down ∧
        l.worker.hasConnected = true) ∨
      ∃ reason, notice = .disconnected reason ∧ l.stage.level = .up) :
    ∃ records outages reason failures, (∀ o ∈ outages, o.failures.length < attempts) ∧
      Counting l.worker attempts failures.length ∧ failures.length ≤ attempts ∧
      l.answer = some (.ok ()) ∧
      l.notices ++ [notice] = story records outages ++ Line.loss reason failures := by
  -- A failed attempt makes the outage longer by one failure; a lost connection opens one with none.
  rcases hnotice with ⟨e, rfl, hdown, hconnected⟩ | ⟨reason, rfl, hup⟩
  · rcases h.of_down hdown with ⟨hfirst, _⟩ |
      ⟨records, outages, reason, failures, houtages, hfailures, hw, ha, hn⟩
    · rw [hfirst] at hconnected
      cases hconnected
    · refine ⟨records, outages, reason, failures ++ [e], houtages, ?_, ?_, ha, ?_⟩
      · simpa using hw
      · simpa using Nat.succ_le_of_lt hfailures
      · simp [hn, Line.loss]
  · obtain ⟨records, outages, houtages, hw, ha, hn⟩ := h.of_up hup
    exact ⟨records, outages, reason, [], houtages, hw, Nat.zero_le _, ha, by rw [hn]; rfl⟩

theorem Turn.told {l' : Line} (ht : Turn l l') (h : Told attempts l) : Told attempts l' := by
  cases ht with
  | keep hlevel hworker hanswer hnotices hstate =>
    exact h.keep hlevel hworker hanswer hnotices hstate
  | record more hup hlevel hworker hanswer hnotices =>
    obtain ⟨records, outages, houtages, hw, ha, hn⟩ := h.of_up hup
    obtain ⟨records', outages', houtages', hstory⟩ := story_append_records records houtages more
    exact .up records' outages' houtages' (.inl ⟨hlevel, by rwa [hworker]⟩) (hanswer.trans ha)
      (by rw [hnotices, hn, hstory])
  | halt hup hoff hworker hanswer hnotices =>
    obtain ⟨records, outages, houtages, _, ha, hn⟩ := h.of_up hup
    exact .up records outages houtages (.inr hoff) (hanswer.trans ha) (hnotices.trans hn)
  | establish hdown hlevel hworker hanswer hnotices =>
    exact h.establish hdown hlevel hworker hanswer hnotices
  | refuse e hdown hfirst hoff hanswer hstate hnotices =>
    rcases h.of_down hdown with ⟨_, _, ha, hn⟩ | ⟨_, _, _, _, _, _, hw, _⟩
    · refine .refused e hoff hstate ?_ ?_
      · rw [hanswer, ha]
        rfl
      · rw [hnotices, hn]
        rfl
    · -- A worker that has connected tries again.
      rw [hw.hasConnected] at hfirst
      cases hfirst
  | retry notice hnotice hleft hlevel hanswer hworker hnotices =>
    obtain ⟨records, outages, reason, failures, houtages, hw, _, ha, hn⟩ := h.loss hnotice
    -- The failures so far are as many as the policy has counted, and attempts are left.
    rw [hw.attempt, hw.maxAttempts] at hleft
    refine .down records outages reason failures houtages hleft hlevel ?_ ?_
      (hnotices.trans hn)
    · rw [hworker]
      exact ⟨hw.hasConnected, hw.maxAttempts, congrArg (· + 1) hw.attempt⟩
    · rw [hanswer (by simp [ha]), ha]
  | giveUp notice hnotice hnone hoff hanswer hstate hnotices =>
    obtain ⟨records, outages, reason, failures, houtages, hw, hle, ha, hn⟩ := h.loss hnotice
    -- None is left, so the failures are just as many as the attempts.
    rw [hw.attempt, hw.maxAttempts] at hnone
    have hall : failures.length = attempts := Nat.le_antisymm hle hnone
    refine .spent records outages reason failures houtages hall hoff hstate ?_ ?_
    · rw [hanswer (by simp [ha]), ha]
    · rw [hnotices, hw.attempt, hall, ← hn, List.append_assoc]
      rfl

end Told

theorem run_told {attempts : Nat} (h : Told attempts l) {as : List LineAction}
    (has : ∀ a ∈ as, a.isControl = false) : Told attempts (l.run as) := by
  induction as generalizing l with
  | nil => exact h
  | cons a as ih =>
    obtain ⟨ha, has⟩ := List.forall_mem_cons.mp has
    have hstep : Told attempts (l.act a) := (l.act_turn ha).told h
    exact ih hstep has

theorem Turn.of_off {l' : Line} (ht : Turn l l') (hoff : l.stage = .off) :
    l'.stage = .off ∧ l'.session.state = l.session.state ∧ l'.notices = l.notices := by
  have hlevel : l.stage.level = .off := by rw [hoff]; rfl
  cases ht with
  | keep h _ _ hn hs => exact ⟨WorkerStage.eq_off_of_level (h.trans hlevel), hs hoff, hn⟩
  | record _ hup => rw [hup] at hlevel; cases hlevel
  | halt hup => rw [hup] at hlevel; cases hlevel
  | establish hdown => rw [hdown] at hlevel; cases hlevel
  | refuse _ hdown => rw [hdown] at hlevel; cases hlevel
  | retry _ h =>
    rcases h with ⟨_, _, h, _⟩ | ⟨_, _, h⟩ <;> rw [h] at hlevel <;> cases hlevel
  | giveUp _ h =>
    rcases h with ⟨_, _, h, _⟩ | ⟨_, _, h⟩ <;> rw [h] at hlevel <;> cases hlevel

/-- The worker has ended in the error state, and nothing more is told until it is started again. -/
def IsFinal (l : Line) : Prop :=
  ∀ as, (∀ a ∈ as, a.isControl = false) →
    (l.run as).notices = l.notices ∧ (l.run as).session.state = .error

theorem isFinal_of_off (hoff : l.stage = .off) (hstate : l.session.state = .error) :
    l.IsFinal := by
  intro as has
  induction as generalizing l with
  | nil => exact ⟨rfl, hstate⟩
  | cons a as ih =>
    obtain ⟨ha, has⟩ := List.forall_mem_cons.mp has
    obtain ⟨hoff', hs, hn⟩ := (l.act_turn ha).of_off hoff
    obtain ⟨hnotices, hfinal⟩ := ih hoff' (hs.trans hstate) has
    exact ⟨hnotices.trans hn, hfinal⟩

theorem start_told (l : Line) : Told l.session.config.attempts l.start :=
  .waiting rfl rfl rfl rfl rfl

/--
What a worker tells from its start on, whatever the network, the peers, the clock and other callers
do: nothing; or the failure of its only attempt; or a connection with its outages. Each outage is
told with all failures of the attempts to end it, which are counted anew each time, and one in which
as many attempts have failed as are allowed is the last.
-/
theorem notices_told {l : Line} (hcredentials : l.session.checkCredentials = .ok ())
    (hidle : l.session.state.isActive = false) {as : List LineAction}
    (has : ∀ a ∈ as, a.isControl = false) :
    let attempts := l.session.config.attempts
    let l' := (l.act .connect).run as
    (l'.notices = [] ∧ l'.answer = none) ∨
    (∃ e, l'.notices = [.connectFailed e] ∧ l'.answer = some (.error e) ∧ l'.IsFinal) ∨
    (l'.answer = some (.ok ()) ∧ ∃ records outages,
      (∀ o ∈ outages, o.failures.length + 1 ≤ attempts) ∧
      (l'.notices = story records outages ∨
        (∃ reason failures, failures.length < attempts ∧
          l'.notices = story records outages ++ loss reason failures) ∨
        (∃ reason failures, failures.length = attempts ∧ l'.IsFinal ∧
          l'.notices = story records outages ++ loss reason failures ++ [.gaveUp attempts]))) := by
  intro attempts l'
  have hstart : l.act .connect = l.start := by
    simp [act, connect, hcredentials, hidle]
  have htold : Told attempts l' := by
    have h := run_told l.start_told has
    rwa [← hstart] at h
  -- The five states of the story are the cases of the statement.
  cases htold with
  | waiting _ _ _ ha hn => exact .inl ⟨hn, ha⟩
  | refused e hoff hstate ha hn =>
    exact .inr (.inl ⟨e, hn, ha, isFinal_of_off hoff hstate⟩)
  | up records outages houtages _ ha hn =>
    exact .inr (.inr ⟨ha, records, outages, houtages, .inl hn⟩)
  | down records outages reason failures houtages hfailures _ _ ha hn =>
    exact .inr (.inr ⟨ha, records, outages, houtages,
      .inr (.inl ⟨reason, failures, hfailures, hn⟩)⟩)
  | spent records outages reason failures houtages hfailures hoff hstate ha hn =>
    exact .inr (.inr ⟨ha, records, outages, houtages,
      .inr (.inr ⟨reason, failures, hfailures, isFinal_of_off hoff hstate, hn⟩)⟩)

/-- A session whose connection is lost, with one attempt to get it back. -/
def brief : Line where
  session :=
    { dialect := .deribit
      channel := .public
      config := { SessionConfig.standard with attempts := 1 } }
  worker := .ofConfig .standard

/-- A peer that closes its stream and is gone then. -/
def briefRun : List LineAction :=
  [.establish, .openQueue, .login none, .snapshot, .resend none, .finish, .closeQueue, .fault 0,
    .wake, .failAttempt (.io "refused") 0]

theorem notices_told_gaveUp :
    brief.session.checkCredentials = .ok () ∧ brief.session.state.isActive = false ∧
      (∀ a ∈ briefRun, a.isControl = false) ∧
      ((brief.act .connect).run briefRun).notices =
        [.connected, .disconnected "connection closed by peer",
          .connectFailed (brief.session.connectError (.io "refused")), .gaveUp 1] ∧
      ((brief.act .connect).run briefRun).IsFinal := by
  have hcredentials : brief.session.checkCredentials = .ok () := rfl
  have hcontrol : ∀ a ∈ briefRun, a.isControl = false := by simp [briefRun, LineAction.isControl]
  have hnotices : ((brief.act .connect).run briefRun).notices =
      [.connected, .disconnected "connection closed by peer",
        .connectFailed (brief.session.connectError (.io "refused")), .gaveUp 1] := rfl
  have hgaveUp : .gaveUp 1 ∈ ((brief.act .connect).run briefRun).notices := by simp [hnotices]
  refine ⟨hcredentials, rfl, hcontrol, hnotices, ?_⟩
  rcases notices_told hcredentials rfl hcontrol with
    ⟨hn, _⟩ | ⟨e, hn, _⟩ | ⟨_, records, outages, _, hn | ⟨_, _, _, hn⟩ | ⟨_, _, _, hfinal, _⟩⟩
  · simp [hn] at hgaveUp
  · simp [hn] at hgaveUp
  · simp [hn, story, Outage.notices, loss] at hgaveUp
  · simp [hn, story, Outage.notices, loss] at hgaveUp
  · exact hfinal

end Line

end VenueGateway
