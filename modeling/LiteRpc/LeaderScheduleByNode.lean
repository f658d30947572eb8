import LiteRpc.AccountData
import LiteRpc.Lib.BTreeMap
import LiteRpc.Lib.GroupMap
import LiteRpc.Lib.Panic
import LiteRpc.Lib.Run

/-!
The leader schedule of an epoch in the two forms `stake_vote` keeps: by slot, the leader of each
slot index, and by node, the slot indexes of each leader keyed by its public key's string, as the
RPC `getLeaderSchedule` returns it. `LeaderScheduleGeneratedData::get_schedule_by_nodes` turns the
first into the second; `calculate_slot_leaders_from_schedule`, with which
`bootstrap_leaderschedule_from_rpc` reads the schedules it fetches, turns the second back.

`Pubkey`'s `Display` and `FromStr` are the parameters `pubkeyToString` and `pubkeyFromStr`, the
latter's error standing for the text of the `ParsePubkeyError`. A `HashMap` is a list of entries
with distinct keys, in whatever order the map iterates them.
-/

namespace LiteRpc

namespace LeaderScheduleGeneratedData

variable (pubkeyToString : Pubkey → String)

/-- The pairs `(pk.to_string(), i)` that `get_schedule_by_nodes` groups. -/
def leaderIndexes (slotLeaders : List Pubkey) : List (String × Nat) :=
  slotLeaders.zipIdx.map fun (pk, i) => (pubkeyToString pk, i)

/-- `get_schedule_by_nodes`. -/
def getScheduleByNodes (slotLeaders : List Pubkey) : List (String × List Nat) :=
  GroupMap.intoGroupMap (leaderIndexes pubkeyToString slotLeaders)

theorem isGrouping_getScheduleByNodes (slotLeaders : List Pubkey) :
    GroupMap.IsGrouping (leaderIndexes pubkeyToString slotLeaders)
      (getScheduleByNodes pubkeyToString slotLeaders) :=
  GroupMap.isGrouping_intoGroupMap _

theorem mem_valuesOf_leaderIndexes (slotLeaders : List Pubkey) (key : String) (i : Nat) :
    i ∈ GroupMap.valuesOf (leaderIndexes pubkeyToString slotLeaders) key ↔
      ∃ h : i < slotLeaders.length, pubkeyToString slotLeaders[i] = key := by
  simp only [GroupMap.mem_valuesOf, leaderIndexes, List.mem_map, Prod.mk.injEq,
    List.mem_zipIdx_iff_getElem?, List.getElem?_eq_some_iff]
  constructor
  · rintro ⟨⟨pk, j⟩, ⟨hj, hpk⟩, hkey, rfl⟩
    exact ⟨hj, hpk ▸ hkey⟩
  · rintro ⟨hi, hkey⟩
    exact ⟨(slotLeaders[i], i), ⟨hi, rfl⟩, hkey, rfl⟩

theorem pairwise_valuesOf_leaderIndexes (slotLeaders : List Pubkey) (key : String) :
    (GroupMap.valuesOf (leaderIndexes pubkeyToString slotLeaders) key).Pairwise (· < ·) := by
  have hsub : (GroupMap.valuesOf (leaderIndexes pubkeyToString slotLeaders) key).Sublist
      (List.range' 0 slotLeaders.length) := by
    have h := (List.filter_sublist (p := fun p : String × Nat => decide (p.1 = key))
      (l := leaderIndexes pubkeyToString slotLeaders)).map Prod.snd
    simpa [GroupMap.valuesOf, leaderIndexes, List.map_map, Function.comp_def, List.zipIdx_map_snd]
      using h
  exact List.Pairwise.sublist hsub (by simpa [List.range_eq_range'] using List.pairwise_lt_range)

end LeaderScheduleGeneratedData

variable (pubkeyFromStr : String → Except String Pubkey)

/-- The inner loop of `calculate_slot_leaders_from_schedule` over one node's slot indexes, which
parses the node's public key again at every index. -/
def insertIndexList (slotLeadersMap : BTreeMap Nat Pubkey) (pk : String) (indexList : List Nat) :
    Except String (BTreeMap Nat Pubkey) :=
  indexList.foldlM (fun slotLeadersMap index => do
      let pubkey ← (pubkeyFromStr pk).mapError
        fun err => "Pubkey from leader schedule not a plublic key:" ++ err
      pure (slotLeadersMap.insert index pubkey))
    slotLeadersMap

/-- `calculate_slot_leaders_from_schedule`: the leaders in the order of their slot indexes. -/
def calculateSlotLeadersFromSchedule (leaderScheudle : List (String × List Nat)) :
    Except String (List Pubkey) := do
  let slotLeadersMap ← leaderScheudle.foldlM
    (fun slotLeadersMap entry => insertIndexList pubkeyFromStr slotLeadersMap entry.1 entry.2)
    BTreeMap.empty
  pure (slotLeadersMap.entries.map Prod.snd)

section Rebuild

variable {pubkeyFromStr}

theorem insertIndexList_spec (slotLeadersMap : BTreeMap Nat Pubkey) {pk : String}
    {indexList : List Nat} (hparse : indexList ≠ [] → ∃ pubkey, pubkeyFromStr pk = .ok pubkey) :
    ∃ map', insertIndexList pubkeyFromStr slotLeadersMap pk indexList = .ok map' ∧
      ∀ i v, map'.get i = some v ↔
        (i ∈ indexList ∧ pubkeyFromStr pk = .ok v) ∨ (i ∉ indexList ∧ slotLeadersMap.get i = some v) := by
  refine (@StepSystem.foldlM_ok_of_invariant_on String _ Nat _ (· ∈ indexList)
    (fun map done => ∀ i v, map.get i = some v ↔
      (i ∈ done ∧ pubkeyFromStr pk = .ok v) ∨ (i ∉ done ∧ slotLeadersMap.get i = some v))
    ?_ slotLeadersMap [] (by simp) indexList fun _ h => h).imp
    fun map' h => ⟨h.1, by simpa using h.2⟩
  intro map done index hindex hmap
  obtain ⟨pubkey, hpubkey⟩ := hparse (List.ne_nil_of_mem hindex)
  refine ⟨map.insert index pubkey, by simp [hpubkey, Except.mapError], fun i v => ?_⟩
  rw [BTreeMap.get_insert]
  by_cases hi : i = index
  · subst hi
    simp [hpubkey]
  · simp [hi, hmap i v]

theorem foldlM_insertIndexList_spec {leaderScheudle : List (String × List Nat)}
    (hparse : ∀ e ∈ leaderScheudle, e.2 ≠ [] → ∃ pubkey, pubkeyFromStr e.1 = .ok pubkey)
    (hsame : ∀ e ∈ leaderScheudle, ∀ e' ∈ leaderScheudle, ∀ i ∈ e.2, i ∈ e'.2 →
      pubkeyFromStr e.1 = pubkeyFromStr e'.1) :
    ∃ slotLeadersMap, leaderScheudle.foldlM
        (fun slotLeadersMap entry => insertIndexList pubkeyFromStr slotLeadersMap entry.1 entry.2)
        BTreeMap.empty = .ok slotLeadersMap ∧
      ∀ i v, slotLeadersMap.get i = some v ↔
        ∃ e ∈ leaderScheudle, i ∈ e.2 ∧ pubkeyFromStr e.1 = .ok v := by
  refine (@StepSystem.foldlM_ok_of_invariant_on String _ (String × List Nat) _
    (· ∈ leaderScheudle)
    (fun map done => (∀ e ∈ done, e ∈ leaderScheudle) ∧ ∀ i v, map.get i = some v ↔
      ∃ e ∈ done, i ∈ e.2 ∧ pubkeyFromStr e.1 = .ok v)
    ?_ BTreeMap.empty [] (by simp [BTreeMap.get, BTreeMap.empty]) leaderScheudle fun _ h => h).imp
    fun map' h => ⟨h.1, by simpa using h.2.2⟩
  rintro map done e he ⟨hdone, hmap⟩
  obtain ⟨map', hstep, hmap'⟩ := insertIndexList_spec map (hparse e he)
  have hdone' : ∀ e' ∈ done ++ [e], e' ∈ leaderScheudle := by
    intro e' he'
    rcases List.mem_append.mp he' with he' | he'
    · exact hdone e' he'
    · rwa [List.mem_singleton.mp he']
  refine ⟨map', hstep, hdone', fun i v => ?_⟩
  rw [hmap', hmap i v]
  constructor
  · rintro (⟨hi, hv⟩ | ⟨-, e', he', hi, hv⟩)
    · exact ⟨e, by simp, hi, hv⟩
    · exact ⟨e', by simp [he'], hi, hv⟩
  · rintro ⟨e', he', hi, hv⟩
    by_cases hie : i ∈ e.2
    · -- a node holding the index before parses as this one
      exact .inl ⟨hie, (hsame e he e' (hdone' e' he') i hie hi).trans hv⟩
    · have he'done : e' ∈ done := by
        rcases List.mem_append.mp he' with he' | he'
        · exact he'
        · exact absurd (List.mem_singleton.mp he' ▸ hi) hie
      exact .inr ⟨hie, e', he'done, hi, hv⟩

theorem calculateSlotLeadersFromSchedule_spec {leaderScheudle : List (String × List Nat)} {n : Nat}
    (hparse : ∀ e ∈ leaderScheudle, e.2 ≠ [] → ∃ pubkey, pubkeyFromStr e.1 = .ok pubkey)
    (hsame : ∀ e ∈ leaderScheudle, ∀ e' ∈ leaderScheudle, ∀ i ∈ e.2, i ∈ e'.2 →
      pubkeyFromStr e.1 = pubkeyFromStr e'.1)
    (hcover : ∀ i, (∃ e ∈ leaderScheudle, i ∈ e.2) ↔ i < n) :
    ∃ slotLeaders, calculateSlotLeadersFromSchedule pubkeyFromStr leaderScheudle = .ok slotLeaders ∧
      slotLeaders.length = n ∧
      ∀ i v, slotLeaders[i]? = some v ↔ ∃ e ∈ leaderScheudle, i ∈ e.2 ∧ pubkeyFromStr e.1 = .ok v := by
  obtain ⟨slotLeadersMap, hfold, hget⟩ := foldlM_insertIndexList_spec hparse hsame
  have hkeys : ∀ i, (slotLeadersMap.get i).isSome ↔ i < n := by
    intro i
    rw [← hcover i, Option.isSome_iff_exists]
    constructor
    · rintro ⟨v, hv⟩
      obtain ⟨e, he, hi, -⟩ := (hget i v).mp hv
      exact ⟨e, he, hi⟩
    · rintro ⟨e, he, hi⟩
      obtain ⟨v, hv⟩ := hparse e he (List.ne_nil_of_mem hi)
      exact ⟨v, (hget i v).mpr ⟨e, he, hi, hv⟩⟩
  refine ⟨slotLeadersMap.entries.map Prod.snd, by simp [calculateSlotLeadersFromSchedule, hfold],
    ?_, fun i v => ?_⟩
  · simpa using congrArg List.length (BTreeMap.map_fst_entries_eq_range hkeys)
  · rw [BTreeMap.getElem?_map_snd_entries hkeys, hget]

end Rebuild

section RoundTrip

open LeaderScheduleGeneratedData

variable {pubkeyToString : Pubkey → String} {pubkeyFromStr : String → Except String Pubkey}

theorem calculateSlotLeadersFromSchedule_getScheduleByNodes
    (hinv : ∀ pk, pubkeyFromStr (pubkeyToString pk) = .ok pk) (slotLeaders : List Pubkey)
    {leaderScheudle : List (String × List Nat)}
    (hperm : leaderScheudle.Perm (getScheduleByNodes pubkeyToString slotLeaders)) :
    calculateSlotLeadersFromSchedule pubkeyFromStr leaderScheudle = .ok slotLeaders := by
  have hmem : ∀ e, e ∈ leaderScheudle ↔
      e.2 = GroupMap.valuesOf (leaderIndexes pubkeyToString slotLeaders) e.1 ∧ e.2 ≠ [] :=
    fun e => hperm.mem_iff.trans (isGrouping_getScheduleByNodes pubkeyToString slotLeaders).mem_iff
  have hleader : ∀ e ∈ leaderScheudle, ∀ i ∈ e.2,
      ∃ h : i < slotLeaders.length, pubkeyFromStr e.1 = .ok slotLeaders[i] := by
    intro e he i hi
    rw [((hmem e).mp he).1, mem_valuesOf_leaderIndexes] at hi
    obtain ⟨h, hkey⟩ := hi
    exact ⟨h, hkey ▸ hinv _⟩
  have hcover : ∀ i, (∃ e ∈ leaderScheudle, i ∈ e.2) ↔ i < slotLeaders.length := by
    intro i
    constructor
    · rintro ⟨e, he, hi⟩
      exact (hleader e he i hi).1
    · intro h
      have hi : i ∈ GroupMap.valuesOf (leaderIndexes pubkeyToString slotLeaders)
          (pubkeyToString slotLeaders[i]) :=
        (mem_valuesOf_leaderIndexes pubkeyToString slotLeaders _ i).mpr ⟨h, rfl⟩
      exact ⟨(_, _), (hmem _).mpr ⟨rfl, List.ne_nil_of_mem hi⟩, hi⟩
  have hparse : ∀ e ∈ leaderScheudle, e.2 ≠ [] → ∃ pubkey, pubkeyFromStr e.1 = .ok pubkey := by
    intro e he hne
    obtain ⟨i, hi⟩ := List.exists_mem_of_ne_nil _ hne
    exact ⟨_, (hleader e he i hi).2⟩
  obtain ⟨rebuilt, hcalc, -, hrebuilt⟩ := calculateSlotLeadersFromSchedule_spec hparse
    (fun e he e' he' i hi hi' => (hleader e he i hi).2.trans (hleader e' he' i hi').2.symm) hcover
  have heq : rebuilt = slotLeaders := by
    refine List.ext_getElem? fun i => Option.ext fun v => ?_
    rw [hrebuilt]
    constructor
    · rintro ⟨e, he, hi, hv⟩
      obtain ⟨h, hslot⟩ := hleader e he i hi
      rw [hslot, Except.ok.injEq] at hv
      simp [h, hv]
    · intro hv
      obtain ⟨h, rfl⟩ := List.getElem?_eq_some_iff.mp hv
      obtain ⟨e, he, hi⟩ := (hcover i).mpr h
      exact ⟨e, he, hi, (hleader e he i hi).2⟩
  rw [hcalc, heq]

theorem getScheduleByNodes_calculateSlotLeadersFromSchedule
    (hinv : ∀ pk, pubkeyFromStr (pubkeyToString pk) = .ok pk)
    {leaderScheudle : List (String × List Nat)} {n : Nat}
    (hnodup : (leaderScheudle.map Prod.fst).Nodup)
    (hkeys : ∀ e ∈ leaderScheudle, ∃ pk, pubkeyToString pk = e.1)
    (hpartition : GroupMap.PartitionsRange leaderScheudle n) :
    ∃ slotLeaders, calculateSlotLeadersFromSchedule pubkeyFromStr leaderScheudle = .ok slotLeaders ∧
      slotLeaders.length = n ∧
      (getScheduleByNodes pubkeyToString slotLeaders).Perm
        (leaderScheudle.map fun e => (e.1, e.2.mergeSort)) := by
  have hparse : ∀ e ∈ leaderScheudle, ∃ pk, pubkeyFromStr e.1 = .ok pk ∧ pubkeyToString pk = e.1 := by
    intro e he
    obtain ⟨pk, hpk⟩ := hkeys e he
    exact ⟨pk, hpk ▸ hinv pk, hpk⟩
  obtain ⟨slotLeaders, hcalc, hlength, hslot⟩ := calculateSlotLeadersFromSchedule_spec
    (fun e he _ => (hparse e he).imp fun _ h => h.1)
    (fun e he e' he' i hi hi' => by rw [hpartition.eq_of_mem he he' hi hi'])
    hpartition.exists_mem_iff
  refine ⟨slotLeaders, hcalc, hlength,
    (isGrouping_getScheduleByNodes pubkeyToString slotLeaders).perm ?_⟩
  have hleader : ∀ i, ∀ e ∈ leaderScheudle, i ∈ e.2 →
      ∃ h : i < slotLeaders.length, pubkeyToString slotLeaders[i] = e.1 := by
    intro i e he hi
    obtain ⟨pk, hpk, hstr⟩ := hparse e he
    obtain ⟨h, hget⟩ := List.getElem?_eq_some_iff.mp ((hslot i pk).mpr ⟨e, he, hi, hpk⟩)
    exact ⟨h, hget ▸ hstr⟩
  have hvalues : ∀ key i, i ∈ GroupMap.valuesOf (leaderIndexes pubkeyToString slotLeaders) key ↔
      ∃ e ∈ leaderScheudle, e.1 = key ∧ i ∈ e.2 := by
    intro key i
    rw [mem_valuesOf_leaderIndexes]
    constructor
    · rintro ⟨h, rfl⟩
      obtain ⟨e, he, hi, -⟩ := (hslot i _).mp (List.getElem?_eq_getElem h)
      exact ⟨e, he, (hleader i e he hi).2.symm, hi⟩
    · rintro ⟨e, he, rfl, hi⟩
      exact hleader i e he hi
  have hsorted : ∀ e ∈ leaderScheudle,
      GroupMap.valuesOf (leaderIndexes pubkeyToString slotLeaders) e.1 = e.2.mergeSort := by
    intro e he
    refine GroupMap.eq_mergeSort_of_mem_iff (pairwise_valuesOf_leaderIndexes _ _ _)
      (hpartition.nodup_of_mem he) fun i => ?_
    rw [hvalues]
    constructor
    · rintro ⟨e', he', hkey, hi⟩
      rwa [List.inj_on_of_nodup_map hnodup he' he hkey] at hi
    · exact fun hi => ⟨e, he, rfl, hi⟩
  refine GroupMap.IsGrouping.of_mem_iff (by simpa [Function.comp_def] using hnodup) fun e' => ?_
  constructor
  · intro he'
    obtain ⟨e, he, rfl⟩ := List.mem_map.mp he'
    have hsort := List.mergeSort_perm e.2 (fun a b => decide (a ≤ b))
    refine ⟨(hsorted e he).symm, fun hnil => hpartition.ne_nil e he ?_⟩
    have hnil' : e.2.mergeSort = [] := hnil
    rw [hnil'] at hsort
    exact hsort.nil_eq.symm
  · rintro ⟨hvals, hne⟩
    obtain ⟨i, hi⟩ := List.exists_mem_of_ne_nil _ hne
    rw [hvals, hvalues] at hi
    obtain ⟨e, he, hkey, -⟩ := hi
    exact List.mem_map.mpr ⟨e, he, Prod.ext hkey (by rw [← hsorted e he, hkey, hvals])⟩

end RoundTrip

/-- `get_schedule_by_nodes` and `calculate_slot_leaders_from_schedule` are inverse encodings of
a leader schedule: by node and back gives every schedule by slot, whatever order the map of nodes
iterates in; by slot and back gives every schedule by node whose keys are public keys' strings and
whose index lists partition the slots, each list sorted. -/
theorem leader_schedule_encodings_round_trip (pubkeyToString : Pubkey → String)
    (pubkeyFromStr : String → Except String Pubkey)
    (hinv : ∀ pk, pubkeyFromStr (pubkeyToString pk) = .ok pk) :
    (∀ (slotLeaders : List Pubkey) (leaderScheudle : List (String × List Nat)),
      leaderScheudle.Perm (LeaderScheduleGeneratedData.getScheduleByNodes pubkeyToString slotLeaders) →
        calculateSlotLeadersFromSchedule pubkeyFromStr leaderScheudle = .ok slotLeaders) ∧
    (∀ (leaderScheudle : List (String × List Nat)) (n : Nat),
      (leaderScheudle.map Prod.fst).Nodup → (∀ e ∈ leaderScheudle, ∃ pk, pubkeyToString pk = e.1) →
        GroupMap.PartitionsRange leaderScheudle n →
        ∃ slotLeaders, calculateSlotLeadersFromSchedule pubkeyFromStr leaderScheudle = .ok slotLeaders ∧
          slotLeaders.length = n ∧
          (LeaderScheduleGeneratedData.getScheduleByNodes pubkeyToString slotLeaders).Perm
            (leaderScheudle.map fun e => (e.1, e.2.mergeSort))) :=
  ⟨fun slotLeaders _ hperm => calculateSlotLeadersFromSchedule_getScheduleByNodes hinv slotLeaders hperm,
    fun _ _ hnodup hkeys hpartition =>
      getScheduleByNodes_calculateSlotLeadersFromSchedule hinv hnodup hkeys hpartition⟩

/-- Keys written as runs of `a` as long as their number, and a schedule of three slots whose first
node leads two. -/
theorem leader_schedule_encodings_round_trip_on_three_slots :
    let pubkeyToString : Pubkey → String := fun pk => String.ofList (List.replicate pk.key 'a')
    let pubkeyFromStr : String → Except String Pubkey := fun s => .ok ⟨s.length⟩
    (∀ pk, pubkeyFromStr (pubkeyToString pk) = .ok pk) ∧
      calculateSlotLeadersFromSchedule pubkeyFromStr
        (LeaderScheduleGeneratedData.getScheduleByNodes pubkeyToString [⟨1⟩, ⟨2⟩, ⟨1⟩]) =
        .ok [⟨1⟩, ⟨2⟩, ⟨1⟩] := by
  intro pubkeyToString pubkeyFromStr
  have hinv : ∀ pk, pubkeyFromStr (pubkeyToString pk) = .ok pk := fun pk => by
    simp [pubkeyFromStr, pubkeyToString]
  exact ⟨hinv,
    (leader_schedule_encodings_round_trip pubkeyToString pubkeyFromStr hinv).1 _ _ (List.Perm.refl _)⟩

end LiteRpc
