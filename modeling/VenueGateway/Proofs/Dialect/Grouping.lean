import Mathlib.Data.List.Dedup
import VenueGateway.Dialect.Subscription
import VenueGateway.Proofs.Json.Fields
import VenueGateway.Proofs.Json.Written

namespace VenueGateway.Grvt

/-- The stream of a channel, up to its first colon. -/
def streamOf (channel : String) : String :=
  String.ofList (channel.toList.takeWhile (· != ':'))

/-- A stream and a selector that is not empty. -/
def HasSelector (channel : String) : Prop :=
  ∃ stream selector, channel = stream ++ ":" ++ selector ∧ selector ≠ ""

theorem splitChannel_fst (channel : String) : (splitChannel channel).1 = streamOf channel := by
  unfold splitChannel
  split
  · next stream selector hsplit =>
    obtain ⟨hcolon, hchannel⟩ := Text.splitOnce_eq_some hsplit
    simp [streamOf, hchannel, List.takeWhile_append_of_pos (Text.bne_of_not_mem hcolon)]
  · next hsplit =>
    have hcolon : ':' ∉ channel.toList := Text.splitOnce_eq_none_iff.mp hsplit
    rw [streamOf, List.takeWhile_eq_self_iff.mpr (Text.bne_of_not_mem hcolon),
      String.ofList_toList]

theorem splitChannel_of_hasSelector {channel : String} (h : HasSelector channel) :
    streamOf channel ++ ":" ++ (splitChannel channel).2 = channel ∧
      (splitChannel channel).2 ≠ "" := by
  obtain ⟨stream, selector, rfl, hne⟩ := h
  rw [← splitChannel_fst]
  unfold splitChannel
  split
  · next before behind hsplit =>
    obtain ⟨hcolon, hchannel⟩ := Text.splitOnce_eq_some hsplit
    refine ⟨?_, fun hempty => hcolon ?_⟩
    · rw [← String.toList_inj, hchannel]
      simp
    · -- With nothing behind it, the first colon would be the last character of the selector.
      have hbehind : behind = [] := by simpa using congrArg String.toList hempty
      have hselector : selector.toList ≠ [] := fun hnil => hne (String.toList_inj.mp hnil)
      have hlast := congrArg List.dropLast hchannel
      rw [hbehind, List.dropLast_concat, String.toList_append,
        List.dropLast_append_of_ne_nil hselector] at hlast
      rw [← hlast]
      simp
  · next hsplit =>
    refine absurd ?_ (Text.splitOnce_eq_none_iff.mp hsplit)
    simp

/-- The selectors that are kept for a stream. -/
def selectorsOf (stream : String) (groups : List (String × List String)) : List String :=
  (Json.lookup stream groups).getD []

def streamsOf (groups : List (String × List String)) : List String := groups.map Prod.fst

/-- The channels that some groups stand for. -/
def channelsOf (groups : List (String × List String)) : List String :=
  groups.flatMap fun g => g.2.map (g.1 ++ ":" ++ ·)

variable {groups : List (String × List String)}

theorem mem_streamsOf_addSelector (stream selector s : String) :
    s ∈ streamsOf (addSelector stream selector groups) ↔ s = stream ∨ s ∈ streamsOf groups := by
  induction groups with
  | nil => simp [streamsOf, addSelector]
  | cons g rest ih =>
    obtain ⟨k, sels⟩ := g
    unfold addSelector
    split_ifs with hlt heq
    · simp [streamsOf]
    · subst heq
      simp [streamsOf]
    · simp only [streamsOf, List.map_cons, List.mem_cons] at ih ⊢
      rw [ih]
      exact or_left_comm

theorem sorted_addSelector (h : (streamsOf groups).Pairwise (· < ·)) (stream selector : String) :
    (streamsOf (addSelector stream selector groups)).Pairwise (· < ·) := by
  -- Induction along the groups, which are kept in the order of their streams: a new stream goes
  -- before the first greater one.
  induction groups with
  | nil => exact List.pairwise_singleton _ _
  | cons g rest ih =>
    obtain ⟨k, sels⟩ := g
    obtain ⟨hk, hrest⟩ := List.pairwise_cons.mp h
    unfold addSelector
    split_ifs with hlt heq
    · refine List.pairwise_cons.mpr ⟨fun s hs => ?_, h⟩
      rcases List.mem_cons.mp hs with rfl | hs
      · exact hlt
      · exact lt_trans hlt (hk s hs)
    · exact h
    · refine List.pairwise_cons.mpr ⟨fun s hs => ?_, ih hrest⟩
      rcases (mem_streamsOf_addSelector stream selector s).mp hs with rfl | hs
      · exact lt_of_le_of_ne (not_lt.mp hlt) (Ne.symm heq)
      · exact hk s hs

theorem selectorsOf_cons (s stream : String) (selectors : List String) :
    selectorsOf s ((stream, selectors) :: groups) =
      if stream = s then selectors else selectorsOf s groups := by
  unfold selectorsOf
  rw [Json.lookup]
  split_ifs <;> rfl

theorem selectorsOf_eq_nil {stream : String} (h : stream ∉ streamsOf groups) :
    selectorsOf stream groups = [] := by
  have hnone : Json.lookup stream groups = none := by
    refine Json.lookup_eq_none_iff.mpr fun g hg heq => h ?_
    rw [← heq]
    exact List.mem_map_of_mem hg
  rw [selectorsOf, hnone]
  rfl

theorem selectorsOf_addSelector_of_ne {stream s : String} (hs : stream ≠ s) (selector : String) :
    selectorsOf s (addSelector stream selector groups) = selectorsOf s groups := by
  induction groups with
  | nil => rw [addSelector, selectorsOf_cons, if_neg hs]
  | cons g rest ih =>
    obtain ⟨k, sels⟩ := g
    unfold addSelector
    split_ifs with hlt heq
    · rw [selectorsOf_cons, if_neg hs]
    · subst heq
      rw [selectorsOf_cons, selectorsOf_cons, if_neg hs, if_neg hs]
    · rw [selectorsOf_cons, selectorsOf_cons, ih]

theorem selectorsOf_addSelector (h : (streamsOf groups).Pairwise (· < ·))
    (stream selector : String) :
    selectorsOf stream (addSelector stream selector groups) =
      selectorsOf stream groups ++ [selector].filter (!·.isEmpty) := by
  induction groups with
  | nil =>
    rw [addSelector, selectorsOf_cons, if_pos rfl]
    rfl
  | cons g rest ih =>
    obtain ⟨k, sels⟩ := g
    obtain ⟨hk, hrest⟩ := List.pairwise_cons.mp h
    unfold addSelector
    split_ifs with hlt heq
    · -- The stream comes before all that are there, and so has no selectors yet.
      have hnew : stream ∉ streamsOf ((k, sels) :: rest) := by
        intro hmem
        rcases List.mem_cons.mp hmem with rfl | hmem
        · exact lt_irrefl _ hlt
        · exact lt_asymm hlt (hk stream hmem)
      rw [selectorsOf_cons, if_pos rfl, selectorsOf_eq_nil hnew]
      rfl
    · rw [selectorsOf_cons, selectorsOf_cons, if_pos heq.symm, if_pos heq.symm]
    · rw [selectorsOf_cons, selectorsOf_cons, if_neg (Ne.symm heq), if_neg (Ne.symm heq), ih hrest]

theorem channelsOf_addSelector_perm (groups : List (String × List String)) (stream : String)
    {selector : String} (h : selector ≠ "") :
    (channelsOf (addSelector stream selector groups)).Perm
      (channelsOf groups ++ [stream ++ ":" ++ selector]) := by
  have hkept : [selector].filter (!·.isEmpty) = [selector] := by
    simpa using h
  induction groups with
  | nil => simp [channelsOf, addSelector, hkept]
  | cons g rest ih =>
    obtain ⟨k, sels⟩ := g
    unfold addSelector
    split_ifs with hlt heq
    · rw [hkept]
      exact (List.perm_append_singleton _ _).symm
    · -- The channel comes behind the others of its stream, with the later streams after it.
      subst heq
      simp only [channelsOf, List.flatMap_cons, List.map_append, hkept, List.map_singleton,
        List.append_assoc]
      exact (List.perm_append_comm).append_left _
    · simp only [channelsOf, List.flatMap_cons, List.append_assoc] at ih ⊢
      exact ih.append_left _

theorem groups_concat (channels : List String) (channel : String) :
    Grvt.groups (channels ++ [channel]) =
      addSelector (streamOf channel) (splitChannel channel).2 (Grvt.groups channels) := by
  rw [← splitChannel_fst]
  simp [Grvt.groups]

theorem sorted_groups (channels : List String) :
    (streamsOf (Grvt.groups channels)).Pairwise (· < ·) := by
  induction channels using List.reverseRecOn with
  | nil => exact List.Pairwise.nil
  | append_singleton channels channel ih =>
    rw [groups_concat]
    exact sorted_addSelector ih _ _

theorem mem_streamsOf_groups (channels : List String) (stream : String) :
    stream ∈ streamsOf (Grvt.groups channels) ↔ stream ∈ channels.map streamOf := by
  induction channels using List.reverseRecOn with
  | nil => rfl
  | append_singleton channels channel ih =>
    rw [groups_concat, mem_streamsOf_addSelector, ih, List.map_append, List.mem_append,
      List.map_singleton, List.mem_singleton]
    exact or_comm

/-- What is kept for a stream are the selectors of its channels, in their order. -/
theorem selectorsOf_groups {channels : List String} (h : ∀ c ∈ channels, HasSelector c)
    (stream : String) :
    selectorsOf stream (Grvt.groups channels) =
      (channels.filter (streamOf · = stream)).map fun c => (splitChannel c).2 := by
  -- Induction from the end, as each channel is added to the groups made of those before it.
  induction channels using List.reverseRecOn with
  | nil => rfl
  | append_singleton channels channel ih =>
    have hchannels := ih fun c hc => h c (List.mem_append_left _ hc)
    have hselector := (splitChannel_of_hasSelector
      (h channel (List.mem_append_right _ List.mem_cons_self))).2
    rw [groups_concat, List.filter_append, List.map_append, ← hchannels]
    by_cases hs : streamOf channel = stream
    · subst hs
      rw [selectorsOf_addSelector (sorted_groups channels)]
      simp [hselector]
    · rw [selectorsOf_addSelector_of_ne hs]
      simp [hs]

theorem channelsOf_groups_perm {channels : List String} (h : ∀ c ∈ channels, HasSelector c) :
    (channelsOf (Grvt.groups channels)).Perm channels := by
  induction channels using List.reverseRecOn with
  | nil => exact List.Perm.refl _
  | append_singleton channels channel ih =>
    have hchannels := ih fun c hc => h c (List.mem_append_left _ hc)
    obtain ⟨hchannel, hselector⟩ := splitChannel_of_hasSelector
      (h channel (List.mem_append_right _ List.mem_cons_self))
    have hstep := channelsOf_addSelector_perm (Grvt.groups channels) (streamOf channel) hselector
    rw [hchannel] at hstep
    rw [groups_concat]
    exact hstep.trans (hchannels.append_right _)

theorem map_selectors {channels : List String} (h : ∀ c ∈ channels, HasSelector c)
    {g : String × List String} (hg : g ∈ Grvt.groups channels) :
    g.2.map (g.1 ++ ":" ++ ·) = channels.filter (streamOf · = g.1) := by
  have hnodup : (streamsOf (Grvt.groups channels)).Nodup :=
    (sorted_groups channels).imp ne_of_lt
  have hlookup : Json.lookup g.1 (Grvt.groups channels) = some g.2 := by
    refine (Json.lookup_eq_some_iff fun v hv w hw hv' hw' => ?_).mpr hg
    exact List.inj_on_of_nodup_map hnodup hv hw (hv'.trans hw'.symm)
  have hselectors := selectorsOf_groups h g.1
  rw [selectorsOf, hlookup, Option.getD_some] at hselectors
  -- Each channel of the stream is put together again from the parts it was cut into.
  rw [hselectors, List.map_map]
  refine (List.map_congr_left fun c hc => ?_).trans (List.map_id _)
  obtain ⟨hmem, hstream⟩ := List.mem_filter.mp hc
  have hchannel := (splitChannel_of_hasSelector (h c hmem)).1
  rwa [of_decide_eq_true hstream] at hchannel

theorem length_groups (channels : List String) :
    (Grvt.groups channels).length = (channels.map streamOf).dedup.length := by
  have hnodup : (streamsOf (Grvt.groups channels)).Nodup :=
    (sorted_groups channels).imp ne_of_lt
  have hperm : (streamsOf (Grvt.groups channels)).Perm (channels.map streamOf).dedup := by
    refine (List.perm_ext_iff_of_nodup hnodup (List.nodup_dedup _)).mpr fun s => ?_
    rw [mem_streamsOf_groups, List.mem_dedup]
  rw [← hperm.length_eq, streamsOf, List.length_map]

/-- A request for some selectors of one stream. -/
structure StreamRequest where
  id : Nat
  method : String
  stream : String
  selectors : List String

namespace StreamRequest

/-- The request as JSON. -/
def json (envelope : Envelope) (r : StreamRequest) : Json :=
  match envelope with
  | .full => .object [("id", .ofNat r.id), ("jsonrpc", "2.0"), ("method", r.method),
      ("params", .object [("selectors", textArray r.selectors), ("stream", r.stream)])]
  | .lite => .object [("i", .ofNat r.id), ("j", "2.0"), ("m", r.method),
      ("p", .object [("s", r.stream), ("s1", textArray r.selectors)])]

/-- The channels that a request names. -/
def channels (r : StreamRequest) : List String := r.selectors.map (r.stream ++ ":" ++ ·)

theorem request_eq (envelope : Envelope) (r : StreamRequest) :
    request envelope r.id r.method r.stream r.selectors = (r.json envelope).text := by
  cases envelope <;> rfl

theorem readable_textArray (depth : Nat) (ss : List String) :
    Json.Readable (depth + 1) (textArray ss) := by
  refine .array fun j hj => ?_
  obtain ⟨s, -, rfl⟩ := List.mem_map.mp hj
  exact .string s

theorem readable_json (depth : Nat) (envelope : Envelope) {r : StreamRequest}
    (h : r.id < Text.bound64) : Json.Readable (depth + 3) (r.json envelope) := by
  have hid : Json.Readable (depth + 2) (.ofNat r.id) := by
    apply Json.Readable.whole
    · exact le_trans (by decide) (Int.natCast_nonneg r.id)
    · exact Int.ofNat_lt.mpr h
  have hselectors := readable_textArray depth r.selectors
  -- Objects are read back when their keys ascend, which both spellings of the names do.
  cases envelope with
  | full =>
    have hkeys : ["id", "jsonrpc", "method", "params"].Pairwise (· < ·) := by decide
    have hparams : ["selectors", "stream"].Pairwise (· < ·) := by decide
    refine .object hkeys ?_
    simp only [List.forall_mem_cons]
    refine ⟨hid, .string _, .string _, .object hparams ?_, List.forall_mem_nil _⟩
    simp only [List.forall_mem_cons]
    exact ⟨hselectors, .string _, List.forall_mem_nil _⟩
  | lite =>
    have hkeys : ["i", "j", "m", "p"].Pairwise (· < ·) := by decide
    have hparams : ["s", "s1"].Pairwise (· < ·) := by decide
    refine .object hkeys ?_
    simp only [List.forall_mem_cons]
    refine ⟨hid, .string _, .string _, .object hparams ?_, List.forall_mem_nil _⟩
    simp only [List.forall_mem_cons]
    exact ⟨.string _, hselectors, List.forall_mem_nil _⟩

theorem read_request (envelope : Envelope) {r : StreamRequest} (h : r.id < Text.bound64) :
    Json.read (request envelope r.id r.method r.stream r.selectors) = some (r.json envelope) := by
  rw [request_eq]
  exact Json.read_text (readable_json 124 envelope h)

end StreamRequest

/-- One request for each group, numbered from `id` on. -/
def requests (method : String) (id : Nat) (groups : List (String × List String)) :
    List StreamRequest :=
  (groups.zipIdx id).map fun g => ⟨g.2, method, g.1.1, g.1.2⟩

theorem numbered_eq (envelope : Envelope) (method : String) (id : Nat) :
    numbered envelope method id groups =
      (requests method id groups).map fun r =>
        request envelope r.id r.method r.stream r.selectors := by
  induction groups generalizing id with
  | nil => rfl
  | cons g rest ih =>
    rw [numbered, ih]
    rfl

theorem map_id_requests (method : String) (id : Nat) :
    (requests method id groups).map StreamRequest.id = List.range' id groups.length := by
  rw [requests, List.map_map]
  exact List.zipIdx_map_snd id groups

theorem map_stream_requests (method : String) (id : Nat) :
    (requests method id groups).map StreamRequest.stream = streamsOf groups := by
  have hmap : (requests method id groups).map StreamRequest.stream =
      streamsOf ((groups.zipIdx id).map Prod.fst) := by
    rw [requests, streamsOf, List.map_map, List.map_map]
    rfl
  rw [hmap, List.zipIdx_map_fst]

theorem flatMap_channels_requests (method : String) (id : Nat) :
    (requests method id groups).flatMap StreamRequest.channels = channelsOf groups := by
  have hmap : (requests method id groups).flatMap StreamRequest.channels =
      channelsOf ((groups.zipIdx id).map Prod.fst) := by
    rw [requests, channelsOf, List.flatMap_map, List.flatMap_map]
    rfl
  rw [hmap, List.zipIdx_map_fst]

/-- Requests that ask for each stream of some channels once, and together for the channels. -/
structure Grouping (channels : List String) (requests : List StreamRequest) : Prop where
  ascending : (requests.map StreamRequest.stream).Pairwise (· < ·)
  streams : ∀ stream, stream ∈ requests.map StreamRequest.stream ↔ stream ∈ channels.map streamOf
  rebuilt : (requests.flatMap StreamRequest.channels).Perm channels
  ordered : ∀ r ∈ requests, r.channels = channels.filter (streamOf · = r.stream)

theorem grouping_requests {channels : List String} (h : ∀ c ∈ channels, HasSelector c)
    (method : String) (id : Nat) :
    Grouping channels (requests method id (Grvt.groups channels)) where
  ascending := by
    rw [map_stream_requests]
    exact sorted_groups channels
  streams := by
    intro stream
    rw [map_stream_requests]
    exact mem_streamsOf_groups channels stream
  rebuilt := by
    rw [flatMap_channels_requests]
    exact channelsOf_groups_perm h
  ordered := by
    intro r hr
    obtain ⟨g, hg, rfl⟩ := List.mem_map.mp hr
    exact map_selectors h (List.fst_mem_of_mem_zipIdx hg)

/-- Channels are asked for stream by stream, in requests that are numbered in a row: none is lost
and none is made up, and the channels of one stream keep their order. -/
theorem channels_requested_by_stream (envelope : Envelope) (account authUrl : String)
    (action : SubscriptionAction) {channels : List String} {id : Nat}
    (hchannels : ∀ c ∈ channels, HasSelector c)
    (hroom : id + (channels.map streamOf).dedup.length ≤ Text.bound64) :
    ∃ requests : List StreamRequest,
      ((Dialect.grvt envelope account authUrl).subscriptionFrames channels action id).map
          Json.read =
        requests.map (fun r => some (r.json envelope)) ∧
      Grouping channels requests ∧
      requests.map StreamRequest.id = List.range' id (channels.map streamOf).dedup.length ∧
      ∀ r ∈ requests, r.method = action.name := by
  have hids : (requests action.name id (Grvt.groups channels)).map StreamRequest.id =
      List.range' id (channels.map streamOf).dedup.length := by
    rw [map_id_requests, length_groups]
  refine ⟨requests action.name id (Grvt.groups channels), ?_, grouping_requests hchannels _ _,
    hids, ?_⟩
  · rw [Dialect.subscriptionFrames, numbered_eq, List.map_map]
    refine List.map_congr_left fun r hr => ?_
    have hid : r.id ∈ List.range' id (channels.map streamOf).dedup.length := by
      rw [← hids]
      exact List.mem_map_of_mem hr
    -- The ids run from `id` on, one for each stream, and `hroom` keeps all of them in the range
    -- that is read back.
    have hbound := (List.mem_range'_1.mp hid).2
    exact StreamRequest.read_request envelope (by omega)
  · intro r hr
    obtain ⟨g, -, rfl⟩ := List.mem_map.mp hr
    rfl

/-- One channel twice, a selector with a colon, and a stream without a name. -/
theorem channels_requested_of_three_streams :
    let channels := ["v1.trade:b", "v1.book:c:d", ":x", "v1.trade:a", "v1.trade:b"]
    (∀ c ∈ channels, HasSelector c) ∧
    7 + (channels.map streamOf).dedup.length ≤ Text.bound64 ∧
    ∃ requests : List StreamRequest,
      ((Dialect.grvt .lite "" "").subscriptionFrames channels .subscribe 7).map Json.read =
        requests.map (fun r => some (r.json .lite)) ∧
      Grouping channels requests ∧
      requests.map StreamRequest.id = [7, 8, 9] ∧ ∀ r ∈ requests, r.method = "subscribe" := by
  intro channels
  have hchannels : ∀ c ∈ channels, HasSelector c := by
    simp only [channels, List.forall_mem_cons]
    exact ⟨⟨"v1.trade", "b", rfl, by decide⟩, ⟨"v1.book", "c:d", rfl, by decide⟩,
      ⟨"", "x", rfl, by decide⟩, ⟨"v1.trade", "a", rfl, by decide⟩,
      ⟨"v1.trade", "b", rfl, by decide⟩, List.forall_mem_nil _⟩
  have hstreams : (channels.map streamOf).dedup.length = 3 := by decide +kernel
  have hroom : 7 + (channels.map streamOf).dedup.length ≤ Text.bound64 := by
    rw [hstreams]
    decide
  have h := channels_requested_by_stream .lite "" "" .subscribe hchannels hroom
  rw [hstreams] at h
  exact ⟨hchannels, hroom, h⟩

end VenueGateway.Grvt
