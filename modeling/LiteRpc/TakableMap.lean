import LiteRpc.AccountData

/-!
`TakableMap` of `stake_vote/src/utils.rs`: a content that a task takes out to work on while
update actions keep arriving. An action goes into the content when it is there and not forced
into the buffer, and waits in `updates` otherwise; `merge` brings a content back and applies the
waiting actions to it, in their order. `take` on a pair of maps hands out both contents or
neither.

The `Notify` of a map is kept as its identity: `take` hands it out to wait on. Its wake-up in
`merge` is left out.
-/

namespace LiteRpc

/-- `UpdateAction`: a new state of an account, or the removal of an account at a slot. -/
inductive UpdateAction (Account : Type) where
  | notify (slot : Slot) (account : Account)
  | remove (pubkey : Pubkey) (slot : Slot)
deriving DecidableEq, Repr

/-- `Arc<Notify>`, known by its identity. -/
structure Notifier where
  id : Nat
deriving DecidableEq, Repr

/-- `TakeResult`: the notifiers to wait on, or the content. -/
inductive TakeResult (C : Type) where
  | taken (notifiers : List Notifier)
  | map (content : C)
deriving DecidableEq, Repr

/-- The message of `unreachable!()`. -/
def unreachableCode : String := "internal error: entered unreachable code"

/-- `TakeResult::and_then`: both taken or both contents; a mix is `unreachable!`. -/
def TakeResult.andThen {C₁ C₂ : Type} :
    TakeResult C₁ → TakeResult C₂ → Except String (TakeResult (C₁ × C₂))
  | .taken notif1, .taken notif2 => .ok (.taken (notif1 ++ notif2))
  | .map content1, .map content2 => .ok (.map (content1, content2))
  | _, _ => .error (unreachableCode ++ ": Bad take result association.")

/-- `TakableContent`: a content that update actions are applied to. -/
class TakableContent (T : Type) (C : Type) where
  addValue : C → UpdateAction T → C

structure TakableMap (T C : Type) where
  content : Option C
  updates : List (UpdateAction T)
  notifier : Notifier

namespace TakableMap

section Content

variable {T C : Type}

def new (content : C) (notifier : Notifier) : TakableMap T C :=
  ⟨some content, [], notifier⟩

def take (self : TakableMap T C) : TakeResult C × TakableMap T C :=
  match self.content with
  | some content => (.map content, { self with content := none })
  | none => (.taken [self.notifier], self)

def isTaken (self : TakableMap T C) : Bool := self.content.isNone

theorem take_of_some (self : TakableMap T C) {c : C} (h : self.content = some c) :
    self.take = (.map c, { self with content := none }) := by
  simp [take, h]

theorem take_of_none (self : TakableMap T C) (h : self.content = none) :
    self.take = (.taken [self.notifier], self) := by
  simp [take, h]

end Content

variable {T C : Type} [TakableContent T C]

/-- `add_value`: into the buffer while the content is out or when forced, into the content
otherwise. -/
def addValue (self : TakableMap T C) (val : UpdateAction T) (forceInUpdate : Bool) :
    TakableMap T C :=
  if self.content.isNone || forceInUpdate then { self with updates := self.updates ++ [val] }
  else { self with content := self.content.map (TakableContent.addValue · val) }

/-- `merge`: with no content held, the content comes back with the buffered actions applied in
their order and the buffer drained; with a content held it is an error. -/
def merge (self : TakableMap T C) (content : C) : Except String Unit × TakableMap T C :=
  if self.content.isNone then
    (.ok (), { self with
      content := some (self.updates.foldl TakableContent.addValue content), updates := [] })
  else (.error "TakableMap with a existing content", self)

/-- `add_value` calls one after the other, each with its `force_in_update`. -/
def addValues (self : TakableMap T C) (adds : List (UpdateAction T × Bool)) : TakableMap T C :=
  adds.foldl (fun m add => m.addValue add.1 add.2) self

@[simp] theorem addValues_nil (self : TakableMap T C) : self.addValues [] = self := rfl

theorem addValues_cons (self : TakableMap T C) (val : UpdateAction T) (force : Bool)
    (adds : List (UpdateAction T × Bool)) :
    self.addValues ((val, force) :: adds) = (self.addValue val force).addValues adds := rfl

theorem addValues_of_some (self : TakableMap T C) {c : C} (h : self.content = some c)
    (adds : List (UpdateAction T × Bool)) :
    self.addValues adds = { self with
      content := some (((adds.filter fun add => !add.2).map (·.1)).foldl TakableContent.addValue c),
      updates := self.updates ++ (adds.filter (·.2)).map (·.1) } := by
  induction adds generalizing self c with
  | nil =>
    obtain ⟨content, updates, notifier⟩ := self
    simp_all
  | cons add adds ih =>
    obtain ⟨val, force⟩ := add
    rw [addValues_cons]
    cases force with
    | true =>
      rw [ih _ (by simpa [addValue] using h)]
      simp [addValue]
    | false =>
      rw [ih _ (c := TakableContent.addValue c val) (by simp [addValue, h])]
      simp [addValue, h]

theorem addValues_of_none (self : TakableMap T C) (h : self.content = none)
    (adds : List (UpdateAction T × Bool)) :
    self.addValues adds = { self with updates := self.updates ++ adds.map (·.1) } := by
  induction adds generalizing self with
  | nil => simp
  | cons add adds ih =>
    obtain ⟨val, force⟩ := add
    rw [addValues_cons, ih _ (by simp [addValue, h])]
    simp [addValue, h]

theorem merge_of_none (self : TakableMap T C) (h : self.content = none) (content : C) :
    self.merge content = (.ok (), { self with
      content := some (self.updates.foldl TakableContent.addValue content), updates := [] }) := by
  simp [merge, h]

theorem merge_ok_or_unchanged (self : TakableMap T C) (content : C) :
    (self.merge content).1 = .ok () ∨
      (self.content.isSome ∧ (self.merge content).2 = self) := by
  cases h : self.content with
  | none => exact .inl (by simp [merge_of_none self h])
  | some c => exact .inr ⟨rfl, by simp [merge, h]⟩

end TakableMap

namespace TakableMap

section Pair

variable {T₁ C₁ T₂ C₂ : Type}

/-- `take` on a pair: both contents, or the notifiers of the maps already taken. -/
def takePair (first : TakableMap T₁ C₁) (second : TakableMap T₂ C₂) :
    Except String (TakeResult (C₁ × C₂) × TakableMap T₁ C₁ × TakableMap T₂ C₂) :=
  match first.isTaken, second.isTaken with
  | true, true | false, false =>
    let (result₁, first) := first.take
    let (result₂, second) := second.take
    (result₁.andThen result₂).map fun result => (result, first, second)
  | true, false =>
    match first.take with
    | (.taken notif, first) => .ok (.taken notif, first, second)
    | (.map _, _) => .error unreachableCode
  | false, true =>
    match second.take with
    | (.taken notif, second) => .ok (.taken notif, first, second)
    | (.map _, _) => .error unreachableCode

theorem takePair_cases (first : TakableMap T₁ C₁) (second : TakableMap T₂ C₂) :
    ∃ r, takePair first second = .ok r ∧
      ((∃ c₁ c₂, r.1 = .map (c₁, c₂) ∧ first.content = some c₁ ∧ second.content = some c₂ ∧
          r.2.1 = { first with content := none } ∧ r.2.2 = { second with content := none }) ∨
        (∃ notifiers, r.1 = .taken notifiers ∧ r.2 = (first, second))) := by
  cases h₁ : first.content with
  | none =>
    cases h₂ : second.content with
    | none =>
      refine ⟨(.taken ([first.notifier] ++ [second.notifier]), first, second), ?_, .inr ⟨_, rfl, rfl⟩⟩
      simp [takePair, isTaken, h₁, h₂, take_of_none, TakeResult.andThen, Except.map]
    | some c₂ =>
      refine ⟨(.taken [first.notifier], first, second), ?_, .inr ⟨_, rfl, rfl⟩⟩
      simp [takePair, isTaken, h₁, h₂, take_of_none]
  | some c₁ =>
    cases h₂ : second.content with
    | none =>
      refine ⟨(.taken [second.notifier], first, second), ?_, .inr ⟨_, rfl, rfl⟩⟩
      simp [takePair, isTaken, h₁, h₂, take_of_none]
    | some c₂ =>
      refine ⟨(.map (c₁, c₂), { first with content := none }, { second with content := none }), ?_,
        .inl ⟨c₁, c₂, rfl, rfl, rfl, rfl, rfl⟩⟩
      simp [takePair, isTaken, h₁, h₂, take_of_some _ h₁, take_of_some _ h₂, TakeResult.andThen,
        Except.map]

end Pair

variable {T₁ C₁ T₂ C₂ : Type} [TakableContent T₁ C₁] [TakableContent T₂ C₂]

/-- `merge` on a pair: the first, then the second once the first succeeded. -/
def mergePair (first : TakableMap T₁ C₁) (second : TakableMap T₂ C₂) (content : C₁ × C₂) :
    Except String Unit × TakableMap T₁ C₁ × TakableMap T₂ C₂ :=
  match first.merge content.1 with
  | (.ok (), first) =>
    let (result, second) := second.merge content.2
    (result, first, second)
  | (.error e, first) => (.error e, first, second)

end TakableMap

end LiteRpc
