import LiteRpc.StakeVote
import LiteRpc.Lib.Run

/-!
The getVoteAccounts requests of the stake and vote loop (`rpcrequest.rs`). A request adds its
return channel to the pending ones and takes the vote store to compute its answer; when the store
is taken, the request waits for a merge and tries again. When a computation ends, the store is
merged back and every pending channel gets that computation's answer, whichever request it was
computed for.

The branches of `start_stakes_and_votes_loop` that drive `RpcRequestData` are events here, in any
interleaving: a request arrives, with the slot and epoch the loop looked up for it, or one future of
`rpc_exec_task` or of `rpc_notify_task` completes. A future of `rpc_notify_task` waits for a merge
of the store; here it may complete at any time, which allows more runs than the code has. The
computation that a request spawns is a pure function of its inputs, so its future holds its result.

`get_rpc_vote_accounts_info` reads the `vote_data` of each stored vote, which `StoredVote` leaves
out, and iterates a `HashMap` in an order that Rust leaves open. Both are parameters:
`voteState` gives the vote data of a stored vote, and `values` the values of a vote map in
iteration order.
-/

namespace LiteRpc

/-- `GetVoteAccountsConfig`, with the fields `get_rpc_vote_accounts_info` reads. -/
structure GetVoteAccountsConfig where
  keepUnstakedDelinquents : Option Bool
  delinquentSlotDistance : Option Nat
deriving DecidableEq, Repr

/-- The `VoteState` of a vote account, with the fields an `RpcVoteAccountInfo` is made from. -/
structure VoteState where
  nodePubkey : Pubkey
  commission : Nat
  /-- the slots of `votes`, oldest first -/
  votes : List Slot
  rootSlot : Option Slot
  epochCredits : List (Nat × Nat × Nat)
deriving DecidableEq, Repr

structure RpcVoteAccountInfo where
  votePubkey : Pubkey
  nodePubkey : Pubkey
  activatedStake : Nat
  commission : Nat
  epochVoteAccount : Bool
  epochCredits : List (Nat × Nat × Nat)
  lastVote : Slot
  rootSlot : Slot
deriving DecidableEq, Repr

structure RpcVoteAccountStatus where
  current : List RpcVoteAccountInfo
  delinquent : List RpcVoteAccountInfo
deriving DecidableEq, Repr

/-- `DELINQUENT_VALIDATOR_SLOT_DISTANCE` of the RPC client API. -/
def delinquentValidatorSlotDistance : Nat := 128

section Info

variable (voteState : StoredVote → VoteState) (values : VoteMap → List StoredVote)

def StoredVote.convertToRpcVoteAccountInfo (self : StoredVote) (activatedStake : Nat)
    (epochVoteAccount : Bool) : RpcVoteAccountInfo :=
  let lastVote := (voteState self).votes.getLast?.getD 0
  ⟨self.pubkey, (voteState self).nodePubkey, activatedStake, (voteState self).commission,
    epochVoteAccount, (voteState self).epochCredits, lastVote, (voteState self).rootSlot.getD 0⟩

/-- The vote accounts, current or delinquent by their last vote, with the delinquent ones without
stake dropped unless the config keeps them. -/
def getRpcVoteAccountsInfo (currentSlot : Slot) (votes : VoteMap)
    (voteAccounts : Pubkey → Option (Nat × StoredVote)) (config : GetVoteAccountsConfig) :
    RpcVoteAccountStatus :=
  let delinquentSlotDistance := config.delinquentSlotDistance.getD delinquentValidatorSlotDistance
  let infos := (values votes).map fun vote =>
    let (stake, epochVoteAccount) :=
      ((voteAccounts vote.pubkey).map fun (stake, _) => (stake, true)).getD (0, false)
    vote.convertToRpcVoteAccountInfo voteState stake epochVoteAccount
  let (currentVoteAccounts, delinquentVoteAccounts) := infos.partition fun info =>
    if currentSlot ≥ delinquentSlotDistance then decide (info.lastVote > currentSlot - delinquentSlotDistance)
    else decide (info.lastVote > 0)
  let keepUnstakedDelinquents := config.keepUnstakedDelinquents.getD false
  let delinquentVoteAccounts :=
    if !keepUnstakedDelinquents then delinquentVoteAccounts.filter (·.activatedStake > 0)
    else delinquentVoteAccounts
  ⟨currentVoteAccounts, delinquentVoteAccounts⟩

/-- The task `take_vote_accounts_and_process` spawns: the content back, with the vote accounts for
the epoch's stakes, or none when the cache has no stakes for the epoch. -/
def computeVoteAccounts (currentSlot : Slot) (epoch : Nat) (config : GetVoteAccountsConfig)
    (content : VoteContent) : VoteContent × RpcVoteAccountStatus :=
  match content.2.cache epoch with
  | some stakes => (content, getRpcVoteAccountsInfo voteState values currentSlot content.1 stakes.voteStakes config)
  | none => (content, ⟨[], []⟩)

end Info

/-- `wait_for_merge_or_get_content`: the content with the waiter's data, or, when the content is
taken, a waiter that returns its data after the next merge. -/
def waitForMergeOrGetContent {T C N : Type} (takeMap : TakableMap T C) (notifyContent : N)
    (waiterFutures : List N) : Option (C × N) × TakableMap T C × List N :=
  match takeMap.take with
  | (.map content, takeMap) => (some (content, notifyContent), takeMap, waiterFutures)
  | (.taken _, takeMap) => (none, takeMap, waiterFutures ++ [notifyContent])

/-- A `oneshot::Sender<RpcVoteAccountStatus>`, known by its identity. -/
structure ReturnChannel where
  id : Nat
deriving DecidableEq, Repr

/-- The message of `Option::unwrap` on `None`. -/
def unwrapNoneFailed : String := "called Option::unwrap() on a None value"

structure RpcRequestData where
  /-- the requests waiting for a merge of the vote store -/
  rpcNotifyTask : List (Slot × Nat × GetVoteAccountsConfig)
  /-- the results of the computations spawned -/
  rpcExecTask : List (VoteContent × RpcVoteAccountStatus)
  pendingRpcRequest : Option (List ReturnChannel)

namespace RpcRequestData

def new : RpcRequestData := ⟨[], [], none⟩

section Requests

variable (voteState : StoredVote → VoteState) (values : VoteMap → List StoredVote)

def takeVoteAccountsAndProcess (self : RpcRequestData) (votestore : TakableMap StoredVote VoteContent)
    (currentSlot : Slot) (epoch : Nat) (config : GetVoteAccountsConfig) :
    RpcRequestData × TakableMap StoredVote VoteContent :=
  match waitForMergeOrGetContent votestore (currentSlot, epoch, config) self.rpcNotifyTask with
  | (some (content, (currentSlot, epoch, config)), votestore, rpcNotifyTask) =>
    ({ self with
      rpcNotifyTask := rpcNotifyTask
      rpcExecTask := self.rpcExecTask ++
        [computeVoteAccounts voteState values currentSlot epoch config content] }, votestore)
  | (none, votestore, rpcNotifyTask) => ({ self with rpcNotifyTask := rpcNotifyTask }, votestore)

def processGetVoteAccounts (self : RpcRequestData) (currentSlot : Slot) (epoch : Nat)
    (config : GetVoteAccountsConfig) (returnChannel : ReturnChannel)
    (votestore : TakableMap StoredVote VoteContent) :
    RpcRequestData × TakableMap StoredVote VoteContent :=
  let pendingRpcRequest := match self.pendingRpcRequest with
    | some pending => some (pending ++ [returnChannel])
    | none => some [returnChannel]
  takeVoteAccountsAndProcess voteState values { self with pendingRpcRequest } votestore currentSlot
    epoch config

end Requests

/-- `notify_end_rpc_get_vote_accounts`: the store is merged back, a failed merge only logged, and
each pending channel gets the answer: all but the last in their order, then the last, popped
with `unwrap`. -/
def notifyEndRpcGetVoteAccounts (self : RpcRequestData) (content : VoteContent)
    (rpcVoteAccounts : RpcVoteAccountStatus) (votestore : TakableMap StoredVote VoteContent) :
    Except String (List (ReturnChannel × RpcVoteAccountStatus) × RpcRequestData ×
      TakableMap StoredVote VoteContent) :=
  let votestore := (votestore.merge content).2
  match self.pendingRpcRequest with
  | some pendingRpcRequest =>
    match pendingRpcRequest.getLast? with
    | some last =>
      .ok (pendingRpcRequest.dropLast.map (·, rpcVoteAccounts) ++ [(last, rpcVoteAccounts)],
        { self with pendingRpcRequest := none }, votestore)
    | none => .error unwrapNoneFailed
  | none => .ok ([], self, votestore)

section Spec

variable (voteState : StoredVote → VoteState) (values : VoteMap → List StoredVote)
variable (self : RpcRequestData) (votestore : TakableMap StoredVote VoteContent) (currentSlot : Slot)
  (epoch : Nat) (config : GetVoteAccountsConfig)

theorem takeVoteAccountsAndProcess_of_some {content : VoteContent}
    (h : votestore.content = some content) :
    self.takeVoteAccountsAndProcess voteState values votestore currentSlot epoch config =
      ({ self with rpcExecTask := self.rpcExecTask ++
          [computeVoteAccounts voteState values currentSlot epoch config content] },
        { votestore with content := none }) := by
  simp [takeVoteAccountsAndProcess, waitForMergeOrGetContent, TakableMap.take_of_some _ h]

theorem takeVoteAccountsAndProcess_of_none (h : votestore.content = none) :
    self.takeVoteAccountsAndProcess voteState values votestore currentSlot epoch config =
      ({ self with rpcNotifyTask := self.rpcNotifyTask ++ [(currentSlot, epoch, config)] },
        votestore) := by
  simp [takeVoteAccountsAndProcess, waitForMergeOrGetContent, TakableMap.take_of_none _ h]

/-- Taking the store leaves the pending channels. -/
@[simp] theorem takeVoteAccountsAndProcess_pendingRpcRequest :
    (self.takeVoteAccountsAndProcess voteState values votestore currentSlot epoch config).1.pendingRpcRequest =
      self.pendingRpcRequest := by
  cases h : votestore.content with
  | none => simp [takeVoteAccountsAndProcess_of_none _ _ _ _ _ _ _ h]
  | some content => simp [takeVoteAccountsAndProcess_of_some _ _ _ _ _ _ _ h]

/-- A request adds its channel behind the pending ones. -/
@[simp] theorem processGetVoteAccounts_pendingRpcRequest (returnChannel : ReturnChannel) :
    (self.processGetVoteAccounts voteState values currentSlot epoch config returnChannel
      votestore).1.pendingRpcRequest = some (self.pendingRpcRequest.getD [] ++ [returnChannel]) := by
  cases h : self.pendingRpcRequest with
  | none => simp [processGetVoteAccounts, h]
  | some pending => simp [processGetVoteAccounts, h]

end Spec

section End

variable (rpcNotifyTask : List (Slot × Nat × GetVoteAccountsConfig))
  (rpcExecTask : List (VoteContent × RpcVoteAccountStatus)) (content : VoteContent)
  (rpcVoteAccounts : RpcVoteAccountStatus) (votestore : TakableMap StoredVote VoteContent)

theorem notifyEndRpcGetVoteAccounts_of_some {pending : List ReturnChannel} (hne : pending ≠ []) :
    (RpcRequestData.mk rpcNotifyTask rpcExecTask (some pending)).notifyEndRpcGetVoteAccounts
        content rpcVoteAccounts votestore =
      .ok (pending.map (·, rpcVoteAccounts), ⟨rpcNotifyTask, rpcExecTask, none⟩,
        (votestore.merge content).2) := by
  obtain ⟨last, hlast⟩ := List.getLast?_isSome.mpr hne |> Option.isSome_iff_exists.mp
  have hsplit : pending.dropLast ++ [last] = pending := by
    rw [List.getLast?_eq_some_iff] at hlast
    obtain ⟨init, rfl⟩ := hlast
    simp
  simp only [notifyEndRpcGetVoteAccounts, hlast]
  congr
  calc pending.dropLast.map (·, rpcVoteAccounts) ++ [(last, rpcVoteAccounts)]
      = (pending.dropLast ++ [last]).map (·, rpcVoteAccounts) := by simp
    _ = pending.map (·, rpcVoteAccounts) := by rw [hsplit]

@[simp] theorem notifyEndRpcGetVoteAccounts_of_none :
    (RpcRequestData.mk rpcNotifyTask rpcExecTask none).notifyEndRpcGetVoteAccounts
        content rpcVoteAccounts votestore =
      .ok ([], ⟨rpcNotifyTask, rpcExecTask, none⟩, (votestore.merge content).2) := rfl

end End

end RpcRequestData

/-- A branch of the loop's `tokio::select!` that reaches `RpcRequestData`. -/
inductive RpcEvent where
  | getVoteAccounts (currentSlot : Slot) (epoch : Nat) (config : GetVoteAccountsConfig)
      (returnChannel : ReturnChannel)
  /-- the future at this index of `rpc_exec_task` completes -/
  | execDone (index : Nat)
  /-- the future at this index of `rpc_notify_task` completes -/
  | notifyDone (index : Nat)
deriving DecidableEq, Repr

def RpcEvent.returnChannel : RpcEvent → Option ReturnChannel
  | .getVoteAccounts _ _ _ returnChannel => some returnChannel
  | _ => none

/-- The state of the loop that the requests use: the request data, `votestore.votes`, and the
message of a panic that ended the loop's task. -/
structure StakeVoteLoop where
  rpcRequestProcessor : RpcRequestData
  votestore : TakableMap StoredVote VoteContent
  panicked : Option String

namespace StakeVoteLoop

def start (votestore : TakableMap StoredVote VoteContent) : StakeVoteLoop :=
  ⟨RpcRequestData.new, votestore, none⟩

variable (voteState : StoredVote → VoteState) (values : VoteMap → List StoredVote)

def step (self : StakeVoteLoop) (event : RpcEvent) :
    List (ReturnChannel × RpcVoteAccountStatus) × StakeVoteLoop :=
  if self.panicked.isSome then ([], self)
  else
    match event with
    | .getVoteAccounts currentSlot epoch config returnChannel =>
      let (rpcRequestProcessor, votestore) := self.rpcRequestProcessor.processGetVoteAccounts
        voteState values currentSlot epoch config returnChannel self.votestore
      ([], { self with rpcRequestProcessor, votestore })
    | .execDone index =>
      match self.rpcRequestProcessor.rpcExecTask[index]? with
      | some (content, rpcVoteAccounts) =>
        let rpcRequestProcessor := { self.rpcRequestProcessor with
          rpcExecTask := self.rpcRequestProcessor.rpcExecTask.eraseIdx index }
        match rpcRequestProcessor.notifyEndRpcGetVoteAccounts content rpcVoteAccounts self.votestore with
        | .ok (sent, rpcRequestProcessor, votestore) =>
          (sent, { self with rpcRequestProcessor, votestore })
        | .error message => ([], { self with panicked := some message })
      | none => ([], self)
    | .notifyDone index =>
      match self.rpcRequestProcessor.rpcNotifyTask[index]? with
      | some (currentSlot, epoch, config) =>
        let rpcRequestProcessor := { self.rpcRequestProcessor with
          rpcNotifyTask := self.rpcRequestProcessor.rpcNotifyTask.eraseIdx index }
        let (rpcRequestProcessor, votestore) := rpcRequestProcessor.takeVoteAccountsAndProcess
          voteState values self.votestore currentSlot epoch config
        ([], { self with rpcRequestProcessor, votestore })
      | none => ([], self)

/-- What holds after the events so far: the loop has not panicked, a pending list is never empty,
and the channels answered, in order, followed by the pending ones are the channels of the requests,
in order. -/
structure Inv (s : StakeVoteLoop) (out : List (ReturnChannel × RpcVoteAccountStatus))
    (events : List RpcEvent) : Prop where
  running : s.panicked = none
  pending_ne_nil : s.rpcRequestProcessor.pendingRpcRequest ≠ some []
  answered : out.map (·.1) ++ s.rpcRequestProcessor.pendingRpcRequest.getD [] =
    events.filterMap RpcEvent.returnChannel

theorem inv_start (votestore : TakableMap StoredVote VoteContent) : Inv (start votestore) [] [] where
  running := rfl
  pending_ne_nil := by simp [start, RpcRequestData.new]
  answered := by simp [start, RpcRequestData.new]

section Step

variable {s : StakeVoteLoop} {out : List (ReturnChannel × RpcVoteAccountStatus)}
  {events : List RpcEvent}

theorem Inv.snoc_of_returnChannel_eq_none (h : Inv s out events) {event : RpcEvent}
    (he : event.returnChannel = none) : Inv s out (events ++ [event]) := by
  refine ⟨h.running, h.pending_ne_nil, ?_⟩
  rw [h.answered, List.filterMap_append]
  simp [he]

theorem Inv.getVoteAccounts (h : Inv s out events) (currentSlot : Slot) (epoch : Nat)
    (config : GetVoteAccountsConfig) (returnChannel : ReturnChannel) :
    Inv (s.step voteState values (.getVoteAccounts currentSlot epoch config returnChannel)).2
      (out ++ (s.step voteState values (.getVoteAccounts currentSlot epoch config returnChannel)).1)
      (events ++ [.getVoteAccounts currentSlot epoch config returnChannel]) := by
  obtain ⟨hrunning, -, hanswered⟩ := h
  refine ⟨by simp [step, hrunning], by simp [step, hrunning], ?_⟩
  simp only [step, hrunning, Option.isSome_none, Bool.false_eq_true, if_false, List.append_nil,
    RpcRequestData.processGetVoteAccounts_pendingRpcRequest, Option.getD_some, List.filterMap_append]
  rw [← hanswered, List.append_assoc]
  rfl

theorem Inv.execDone (h : Inv s out events) (index : Nat) :
    Inv (s.step voteState values (.execDone index)).2
      (out ++ (s.step voteState values (.execDone index)).1) (events ++ [.execDone index]) := by
  apply Inv.snoc_of_returnChannel_eq_none _ rfl
  obtain ⟨hrunning, hne, hanswered⟩ := h
  cases hexec : s.rpcRequestProcessor.rpcExecTask[index]? with
  | none => exact ⟨by simp [step, hrunning, hexec], by simpa [step, hrunning, hexec] using hne,
      by simpa [step, hrunning, hexec] using hanswered⟩
  | some result =>
    obtain ⟨content, rpcVoteAccounts⟩ := result
    cases hpending : s.rpcRequestProcessor.pendingRpcRequest with
    | none =>
      refine ⟨by simp [step, hrunning, hexec, hpending], by simp [step, hrunning, hexec, hpending], ?_⟩
      simpa [step, hrunning, hexec, hpending] using hanswered
    | some pending =>
      have hpending' : pending ≠ [] := fun hnil => hne (hnil ▸ hpending)
      have hend := RpcRequestData.notifyEndRpcGetVoteAccounts_of_some
        s.rpcRequestProcessor.rpcNotifyTask (s.rpcRequestProcessor.rpcExecTask.eraseIdx index)
        content rpcVoteAccounts s.votestore hpending'
      rw [hpending, Option.getD_some] at hanswered
      refine ⟨by simp [step, hrunning, hexec, hpending, hend],
        by simp [step, hrunning, hexec, hpending, hend], ?_⟩
      simp [step, hrunning, hexec, hpending, hend, ← hanswered, Function.comp_def]

theorem Inv.notifyDone (h : Inv s out events) (index : Nat) :
    Inv (s.step voteState values (.notifyDone index)).2
      (out ++ (s.step voteState values (.notifyDone index)).1) (events ++ [.notifyDone index]) := by
  apply Inv.snoc_of_returnChannel_eq_none _ rfl
  obtain ⟨hrunning, hne, hanswered⟩ := h
  cases hnotify : s.rpcRequestProcessor.rpcNotifyTask[index]? with
  | none => exact ⟨by simp [step, hrunning, hnotify], by simpa [step, hrunning, hnotify] using hne,
      by simpa [step, hrunning, hnotify] using hanswered⟩
  | some request =>
    obtain ⟨currentSlot, epoch, config⟩ := request
    exact ⟨by simp [step, hrunning, hnotify], by simpa [step, hrunning, hnotify] using hne,
      by simpa [step, hrunning, hnotify] using hanswered⟩

theorem Inv.step (h : Inv s out events) (event : RpcEvent) :
    Inv (s.step voteState values event).2 (out ++ (s.step voteState values event).1)
      (events ++ [event]) := by
  cases event with
  | getVoteAccounts currentSlot epoch config returnChannel =>
    exact h.getVoteAccounts voteState values currentSlot epoch config returnChannel
  | execDone index => exact h.execDone voteState values index
  | notifyDone index => exact h.notifyDone voteState values index

end Step

/-- Over any interleaving of requests and completions, the loop never panics, and the channels
answered, in order, followed by those still pending are the channels of the requests, in order:
each request is answered at most once, in the order of the requests. -/
theorem rpc_answers_follow_requests (votestore : TakableMap StoredVote VoteContent)
    (events : List RpcEvent) :
    (StepSystem.runOutputs (step voteState values) (start votestore) events).2.panicked = none ∧
      (StepSystem.runOutputs (step voteState values) (start votestore) events).1.map (·.1) ++
          ((StepSystem.runOutputs (step voteState values) (start votestore) events).2.rpcRequestProcessor.pendingRpcRequest.getD []) =
        events.filterMap RpcEvent.returnChannel := by
  have hrun := @StepSystem.runOutputs_history StakeVoteLoop RpcEvent (ReturnChannel × RpcVoteAccountStatus)
    (step voteState values) (fun _ => True) (fun _ _ _ => trivial) Inv
    (fun _ _ _ event h _ => h.step voteState values event) (start votestore) [] [] (inv_start votestore)
    events trivial
  simp only [List.nil_append] at hrun
  exact ⟨hrun.running, hrun.answered⟩

theorem step_execDone_fst_of_pendingRpcRequest_none {s : StakeVoteLoop}
    (hpending : s.rpcRequestProcessor.pendingRpcRequest = none) (index : Nat) :
    (s.step voteState values (.execDone index)).1 = [] := by
  by_cases hrunning : s.panicked.isSome
  · simp [step, hrunning]
  · cases hexec : s.rpcRequestProcessor.rpcExecTask[index]? with
    | none => simp [step, hrunning, hexec]
    | some result => simp [step, hrunning, hexec, hpending]

/-- A request that arrives while the computation of an earlier one runs gets the answer computed
for the earlier one, with its slot, epoch and config; its own computation, started once the store
is back, answers no channel. -/
theorem waiting_request_answered_with_earlier_params (votestore : TakableMap StoredVote VoteContent)
    {content : VoteContent} (hcontent : votestore.content = some content)
    (slot₁ epoch₁ : Nat) (config₁ : GetVoteAccountsConfig) (channel₁ : ReturnChannel)
    (slot₂ epoch₂ : Nat) (config₂ : GetVoteAccountsConfig) (channel₂ : ReturnChannel) :
    (StepSystem.runOutputs (step voteState values) (start votestore)
        [.getVoteAccounts slot₁ epoch₁ config₁ channel₁, .getVoteAccounts slot₂ epoch₂ config₂ channel₂,
          .execDone 0, .notifyDone 0, .execDone 0]).1 =
      [(channel₁, (computeVoteAccounts voteState values slot₁ epoch₁ config₁ content).2),
        (channel₂, (computeVoteAccounts voteState values slot₁ epoch₁ config₁ content).2)] := by
  have h₁ : (start votestore).step voteState values (.getVoteAccounts slot₁ epoch₁ config₁ channel₁) =
      ([], ⟨⟨[], [computeVoteAccounts voteState values slot₁ epoch₁ config₁ content], some [channel₁]⟩,
        { votestore with content := none }, none⟩) := by
    simp [step, start, RpcRequestData.new, RpcRequestData.processGetVoteAccounts,
      RpcRequestData.takeVoteAccountsAndProcess_of_some _ _ _ _ _ _ _ hcontent]
  have htaken : ({ votestore with content := none } : TakableMap StoredVote VoteContent).content =
      none := rfl
  have h₂ : step voteState values
      ⟨⟨[], [computeVoteAccounts voteState values slot₁ epoch₁ config₁ content], some [channel₁]⟩,
        { votestore with content := none }, none⟩ (.getVoteAccounts slot₂ epoch₂ config₂ channel₂) =
      ([], ⟨⟨[(slot₂, epoch₂, config₂)], [computeVoteAccounts voteState values slot₁ epoch₁ config₁ content],
        some [channel₁, channel₂]⟩, { votestore with content := none }, none⟩) := by
    simp [step, RpcRequestData.processGetVoteAccounts,
      RpcRequestData.takeVoteAccountsAndProcess_of_none _ _ _ _ _ _ _ htaken]
  have h₃ : step voteState values
      ⟨⟨[(slot₂, epoch₂, config₂)], [computeVoteAccounts voteState values slot₁ epoch₁ config₁ content],
        some [channel₁, channel₂]⟩, { votestore with content := none }, none⟩ (.execDone 0) =
      ([(channel₁, (computeVoteAccounts voteState values slot₁ epoch₁ config₁ content).2),
          (channel₂, (computeVoteAccounts voteState values slot₁ epoch₁ config₁ content).2)],
        ⟨⟨[(slot₂, epoch₂, config₂)], [], none⟩, ({ votestore with content := none }.merge
          (computeVoteAccounts voteState values slot₁ epoch₁ config₁ content).1).2, none⟩) := by
    simp [step, RpcRequestData.notifyEndRpcGetVoteAccounts_of_some]
  have h₄ : (step voteState values
      ⟨⟨[(slot₂, epoch₂, config₂)], [], none⟩, ({ votestore with content := none }.merge
        (computeVoteAccounts voteState values slot₁ epoch₁ config₁ content).1).2, none⟩
      (.notifyDone 0)).2.rpcRequestProcessor.pendingRpcRequest = none := by
    simp [step]
  simp only [StepSystem.runOutputs_cons, StepSystem.runOutputs_nil, h₁, h₂, h₃,
    step_execDone_fst_of_pendingRpcRequest_none _ _ h₄]
  simp [step]

/-- A vote account without stake whose last vote is too old for slot 300: the first request keeps
unstaked delinquents and lists it, the second does not keep them, and still gets that list. -/
theorem waiting_request_answered_with_earlier_params_keeping_unstaked :
    let vote : StoredVote := ⟨⟨2⟩, 10, 0⟩
    let content : VoteContent := (fun k => if k = ⟨2⟩ then some vote else none,
      ⟨fun epoch => if epoch = 0 then some ⟨fun _ => none, 0⟩ else none⟩)
    let voteState : StoredVote → VoteState := fun _ => ⟨⟨9⟩, 0, [100], none, []⟩
    let values : VoteMap → List StoredVote := fun votes => (votes ⟨2⟩).toList
    let votestore : TakableMap StoredVote VoteContent := TakableMap.new content ⟨0⟩
    votestore.content = some content ∧
      (StepSystem.runOutputs (step voteState values) (start votestore)
          [.getVoteAccounts 300 0 ⟨some true, none⟩ ⟨1⟩, .getVoteAccounts 300 0 ⟨none, none⟩ ⟨2⟩,
            .execDone 0, .notifyDone 0, .execDone 0]).1 =
        [(⟨1⟩, (computeVoteAccounts voteState values 300 0 ⟨some true, none⟩ content).2),
          (⟨2⟩, (computeVoteAccounts voteState values 300 0 ⟨some true, none⟩ content).2)] ∧
      (computeVoteAccounts voteState values 300 0 ⟨some true, none⟩ content).2 ≠
        (computeVoteAccounts voteState values 300 0 ⟨none, none⟩ content).2 := by
  intro vote content voteState values votestore
  exact ⟨rfl, waiting_request_answered_with_earlier_params voteState values votestore rfl
    300 0 ⟨some true, none⟩ ⟨1⟩ 300 0 ⟨none, none⟩ ⟨2⟩, by decide⟩

end StakeVoteLoop

end LiteRpc
