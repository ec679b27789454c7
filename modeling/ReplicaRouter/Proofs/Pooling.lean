import Mathlib.Data.Finset.Card
import ReplicaRouter.Proofs.Borrowing
/-
The accounts of a pool. Any number of calls to borrow from it, to give back, evict and abandon its handles and
to close it run side by side, and between them connections break.
Main statement: `World.accounts_of_run`.
-/
namespace ReplicaRouter.World

open Stake

variable {D α : Type} [Backend D] {O : Backend.Outlook D} {p : PoolId} {size : Nat} {w w' : World (Metered D)}
  {rest g : Multiset Stake} {c : ConnId}

/-! ## Traffic -/

/-- What can be asked of a pool and its handles. -/
inductive Ask where
  | borrow
  | giveBack (h : HandleId)
  | evict (h : HandleId)
  | abandon (h : HandleId)
  | close
  /-- In the background, a connection that nobody holds any more is closed. -/
  | closeOrphan

namespace Ask

/-- The work that is done for a pool. -/
def work (p : PoolId) : Ask → Routine (World D) Unit
  | borrow => discard (World.borrow p)
  | giveBack h => World.giveBack h
  | evict h => World.evict h
  | abandon h => World.abandon h
  | close => discard (closePool p)
  | closeOrphan => World.closeOrphan

/-- A handle has to be there before anything can be asked of it. -/
def Possible (w : World D) : Ask → Prop
  | giveBack h | evict h | abandon h => h < w.handles.length
  | _ => True

/-- The calls that can be made while the world is like this. -/
def Calls (p : PoolId) (w : World D) (x : Routine (World D) Unit) : Prop :=
  ∃ a : Ask, a.Possible w ∧ x = a.work p

end Ask

theorem pays_discard {x : Routine (World (Metered D)) α} (hx : Pays O p size x w rest fun _ own _ => own = 0) :
    Pays O p size (discard x) w rest fun _ own _ => own = 0 := by
  refine Routine.accounts_bind hx ?_
  rintro _ _ v rest rfl hv
  exact Routine.accounts_pure hv rfl

/-- Every call leaves the books in order wherever it stops, and has nothing at stake in the end. -/
theorem pays_call {x : Routine (World (Metered D)) Unit} (hx : Ask.Calls p w x) (hw : InOrder O p size w rest) :
    Pays O p size x w rest fun _ own _ => own = 0 := by
  obtain ⟨a, hpossible, rfl⟩ := hx
  cases a with
  | borrow => exact pays_discard (pays_borrow hw)
  | giveBack h => exact pays_giveBack hw hpossible
  | evict h => exact pays_evict hw hpossible
  | abandon h => exact pays_abandon hw hpossible
  | close => exact pays_discard (pays_closePool hw)
  | closeOrphan => exact pays_closeOrphan hw

/-- Whatever happens elsewhere: connections break, operations run over them, the host list and the cache
change and much is written down, but no pool or handle changes and no connection is opened. -/
structure Elsewhere (w v : World (Metered D)) : Prop where
  pools : v.pools = w.pools
  handles : v.handles = w.handles
  orphans : v.orphans = w.orphans
  dialing : v.backend.dialing = w.backend.dialing
  journal : w.journal <:+ v.journal
  opened : v.opened = w.opened

theorem InOrder.elsewhere (hw : InOrder O p size w g) (h : w.Elsewhere w')
    (hlater : O.later w.backend.driver w'.backend.driver) : O.Follows w w' ∧ InOrder O p size w' g := by
  have hf : O.Follows w w' := ⟨hlater, h.journal⟩
  have hpool : w'.pool p = w.pool p := by rw [pool, h.pools]; rfl
  refine ⟨hf, h.pools ▸ hw.exists_pool, ?_⟩
  rw [hpool]
  exact hw.ledger.later hf h.opened h.handles h.orphans h.dialing

/-- The pool is a new one, and nothing happened yet. -/
structure Fresh (p : PoolId) (config : PoolConfig) (w : World (Metered D)) : Prop where
  exists_pool : p < w.pools.length
  created : ∃ key protocol host props, Pool.create key protocol host props config = .ok (w.pool p)
  handles : w.handles = []
  orphans : w.orphans = []
  opened : w.opened = []
  dialing : w.backend.dialing = 0

theorem Fresh.inOrder {config : PoolConfig} (hw : w.Fresh p config) : InOrder O p config.maxSize w 0 := by
  obtain ⟨key, protocol, host, props, hcreated⟩ := hw.created
  have hpool : w.pool p = { key, protocol, host, props, config, permits := { free := config.maxSize } } := by
    unfold Pool.create at hcreated
    split at hcreated
    · cases hcreated
    · exact (Except.ok.inj hcreated).symm
  have hnone : ∀ h, ¬ h < w.handles.length := fun h => by simp [hw.handles]
  have hlent : w.lent = [] := by simp [lent, hw.handles]
  have hplaces : places (w.pool p) w 0 = 0 := by
    rw [places, hpool, hlent, hw.orphans]
    rfl
  refine ⟨hw.exists_pool, ⟨?_, ?_, ?_, ?_, ?_, ?_, ?_, fun _ => ⟨hw.orphans, by simp⟩⟩⟩
  · refine ⟨fun h hh => absurd hh (hnone h), fun h hh => absurd hh (hnone h), fun h hh => ?_, Multiset.nodup_zero⟩
    exact absurd hh (Multiset.notMem_zero h)
  · rw [hpool, hlent]
    rfl
  · rw [hpool, hlent]
    rfl
  · rw [hpool]
    rfl
  · exact hw.dialing
  · rw [hplaces]
    simp
  · rw [hplaces]
    have hopened : ∀ c, c ∉ w.opened := fun c => by simp [hw.opened]
    refine ⟨fun _ => Multiset.nodup_zero, fun c hc => ?_, fun c hc => ?_, fun c hc => ?_⟩
    · exact absurd hc (Multiset.notMem_zero c)
    · exact absurd hc (hopened c)
    · exact absurd hc (hopened c)

/-- After every interleaving the books are in order for what the waiting calls have at stake. -/
theorem inOrder_of_run {others : World (Metered D) → World (Metered D) → Prop} {config : PoolConfig}
    {s₀ s : Schedule (World (Metered D))} (hothers : ∀ w v, others w v → w.Elsewhere v)
    (hlater : ∀ w v, others w v → O.later w.backend.driver v.backend.driver) (hfresh : s₀.world.Fresh p config)
    (hparked : s₀.parked = []) (hrun : Schedule.Run (Ask.Calls p) others s₀ s) :
    ∃ stakes : List (Multiset Stake), stakes.length = s.parked.length ∧
      InOrder O p config.maxSize s.world stakes.sum := by
  have hstart : s₀.Balanced O.Follows (InOrder O p config.maxSize) := by
    refine ⟨[], ?_, hfresh.inOrder⟩
    rw [hparked]
    exact .nil
  obtain ⟨stakes, hheld, hw⟩ := hstart.run (fun _ _ _ => pays_call)
    (fun w v _ hv hw => hw.elsewhere (hothers w v hv) (hlater w v hv)) hrun
  exact ⟨stakes, hheld.length_eq, hw⟩

/-! ## What the books say -/

/-- The connections that were opened and that the driver does not know to be closed. -/
def standing (w : World D) : Finset ConnId := w.opened.toFinset.filter fun c => w.isClosed c = false

theorem mem_standing {w : World D} : c ∈ w.standing ↔ c ∈ w.opened ∧ w.isClosed c = false := by
  simp [standing]

theorem not_gone_of_standing [Backend.Final D] {trusting : Prop} {hclose} (hc : c ∈ w.standing)
    (hup : trusting → c ∉ w.hungUp) : ¬ (Backend.Outlook.ofFinal (D := D) trusting hclose).Gone c w := by
  have hopen := (mem_standing.1 hc).2
  rintro (hclosed | ⟨ht, htold⟩)
  · rw [show w.isClosed c = true from hclosed] at hopen
    cases hopen
  · exact hup ht htold

namespace Ledger

variable {P : Pool}

theorem nodup (hl : Ledger O p size P w g) (hopened : w.opened.Nodup) : (P.idle ++ w.lent).Nodup := by
  have hle : (P.idle ++ w.lent : List ConnId) ≤ places P w g := by
    rw [places, ← Multiset.coe_add, add_assoc _ (w.orphans : Multiset ConnId)]
    exact Multiset.le_add_right _ _
  exact Multiset.coe_nodup.1 (Multiset.nodup_of_le hle (hl.tracks.nodup hopened))

/-- Connections that are not over have a place each, and there is room for those that are being opened. -/
theorem card_le (hl : Ledger O p size P w g) {cs : Finset ConnId} (hcs : ∀ c ∈ cs, c ∈ w.opened ∧ ¬ O.Gone c w) :
    cs.card + w.backend.dialing ≤ size := by
  have hsub : cs ⊆ (places P w g).toFinset := fun c hc => by
    obtain ⟨ho, hg⟩ := hcs c hc
    exact Multiset.mem_toFinset.2 ((hl.tracks.covers c ho).resolve_right hg)
  have hcard : cs.card ≤ (places P w g).card :=
    (Finset.card_le_card hsub).trans (Multiset.toFinset_card_le _)
  have hroom := hl.room
  have hmeter := hl.meter
  omega

/-- While no call has anything at stake, every permit is free or with a handle that is out. -/
theorem free_add_active (hl : Ledger O p size P w 0) : P.permits.free + P.active = size := by
  have hgranted : P.permits.granted.length = 0 := by
    have hcard := congrArg Multiset.card hl.tickets
    simp only [ticketsOf, Multiset.zero_bind, Multiset.card_zero, Permits.queue, Multiset.card_add,
      Multiset.coe_card] at hcard
    omega
  have hpermits := hl.permits
  have hactive := hl.active
  simp only [Permits.unused, permitsOf, Multiset.map_zero, Multiset.sum_zero] at hpermits
  omega

end Ledger

/-- A pool keeps its accounts through every interleaving of calls, and whatever the driver does.

As many handles are out as it counts. No connection has two places, be they with handles that are out or
among the idle ones, unless the driver opened one twice. If closed connections stay closed, there are never
more connections open and being opened than the pool may have, leaving out those that the driver was told to
close; those count as well if it closes what it is told to close. While no call waits, the free permits
are those that no handle that is out has. -/
theorem accounts_of_run {others : World (Metered D) → World (Metered D) → Prop} {config : PoolConfig}
    {s₀ s : Schedule (World (Metered D))} (hothers : ∀ w v, others w v → w.Elsewhere v)
    (hfresh : s₀.world.Fresh p config) (hparked : s₀.parked = [])
    (hrun : Schedule.Run (Ask.Calls p) others s₀ s) :
    (s.world.pool p).active = (s.world.handles.filter (!·.returned)).length ∧
      (s.world.opened.Nodup → ((s.world.pool p).idle ++ s.world.lent).Nodup) ∧
      (∀ _ : Backend.Final D,
        (∀ w v, others w v → Backend.Later Backend.Final.has w.backend.driver v.backend.driver) →
        (s.world.standing \ s.world.hungUp.toFinset).card + s.world.backend.dialing ≤ config.maxSize) ∧
      (∀ _ : Backend.Closing D,
        (∀ w v, others w v → Backend.Later Backend.Final.has w.backend.driver v.backend.driver) →
        s.world.standing.card + s.world.backend.dialing ≤ config.maxSize) ∧
      (s.parked = [] → (s.world.pool p).permits.free + (s.world.pool p).active = config.maxSize) := by
  obtain ⟨stakes, hlen, hw⟩ :=
    inOrder_of_run (O := Backend.Outlook.blank) hothers (fun _ _ _ => trivial) hfresh hparked hrun
  refine ⟨?_, hw.ledger.nodup, fun _ hlater => ?_, fun _ hlater => ?_, fun hdone => ?_⟩
  · rw [hw.ledger.active, lent, List.length_map]
  · -- the invariant again, now for somebody who knows that what is closed stays closed
    obtain ⟨stakes, -, hw⟩ :=
      inOrder_of_run (O := .ofFinal True (.inl trivial)) hothers hlater hfresh hparked hrun
    refine hw.ledger.card_le fun c hc => ?_
    obtain ⟨hc, hup⟩ := Finset.mem_sdiff.1 hc
    exact ⟨(mem_standing.1 hc).1, not_gone_of_standing hc fun _ => by simpa using hup⟩
  · obtain ⟨stakes, -, hw⟩ :=
      inOrder_of_run (O := .ofFinal False (.inr Backend.Closing.closes)) hothers hlater hfresh hparked hrun
    refine hw.ledger.card_le fun c hc => ?_
    exact ⟨(mem_standing.1 hc).1, not_gone_of_standing hc False.elim⟩
  · rw [hdone] at hlen
    have hnone : stakes.sum = 0 := by rw [List.length_eq_zero_iff.1 hlen, List.sum_nil]
    exact (hnone ▸ hw.ledger).free_add_active

/-! ### A pool of one connection -/

namespace Rush

open Sim

def config : PoolConfig := { maxSize := 1 }

/-- A new pool for one connection to a host. -/
def pool : Pool where
  key := "w"
  protocol := "db"
  host := ⟨"w", none, .writer⟩
  props := []
  config
  permits := { free := 1 }

def start : Schedule (World (Metered Cluster)) where
  world := { backend := { driver := {} }, cache := .empty ⟨0⟩ ⟨0⟩ 0, pools := [pool] }

/-- The first connection breaks. -/
def breakFirst (w : World (Metered Cluster)) : World (Metered Cluster) :=
  driverPart.modify (·.modifyConn 0 fun conn => { conn with closed := true }) w

def Breaks (w v : World (Metered Cluster)) : Prop := v = breakFirst w

def call (a : Ask) (s : Schedule (World (Metered Cluster))) : Schedule (World (Metered Cluster)) :=
  s.absorb (a.work 0 s.clock s.world)

/-- The connection is borrowed, asked for once more, and breaks. -/
def broken : Schedule (World (Metered Cluster)) :=
  let s := call .borrow (call .borrow start)
  { s with world := breakFirst s.world }

/-- It is given back, and whoever waited gets another one. -/
def finish : Schedule (World (Metered Cluster)) := (call (.giveBack 0) broken).wake

theorem fresh_start : start.world.Fresh 0 config where
  exists_pool := by decide
  created := ⟨"w", "db", ⟨"w", none, .writer⟩, [], rfl⟩
  handles := rfl
  orphans := rfl
  opened := rfl
  dialing := rfl

theorem run_finish : Schedule.Run (Ask.Calls 0) Breaks start finish := by
  have hborrow : ∀ s : Schedule (World (Metered Cluster)),
      Schedule.Step (Ask.Calls 0) Breaks s (call .borrow s) := fun s => .call ⟨.borrow, trivial, rfl⟩
  have hback : Schedule.Step (Ask.Calls 0) Breaks broken (call (.giveBack 0) broken) :=
    .call ⟨.giveBack 0, show 0 < broken.world.handles.length by decide +kernel, rfl⟩
  have hwake : Schedule.Step (Ask.Calls 0) Breaks (call (.giveBack 0) broken) finish := .wake (by decide +kernel)
  exact .tail (.tail (.tail (.tail (.single (hborrow _)) (hborrow _)) (.others rfl)) hback) hwake

theorem elsewhere_breakFirst (w : World (Metered Cluster)) : w.Elsewhere (breakFirst w) :=
  ⟨rfl, rfl, rfl, rfl, List.suffix_rfl, rfl⟩

end Rush

/-- Two handles were handed out for two connections, one of them broken, and one is out. -/
theorem accounts_of_rush :
    Rush.finish.world.handles.length = 2 ∧ Rush.finish.world.opened = [1, 0] ∧
      (Rush.finish.world.pool 0).active = (Rush.finish.world.handles.filter (!·.returned)).length ∧
      ((Rush.finish.world.pool 0).idle ++ Rush.finish.world.lent).Nodup ∧
      Rush.finish.world.standing.card + Rush.finish.world.backend.dialing ≤ 1 ∧
      (Rush.finish.world.pool 0).permits.free + (Rush.finish.world.pool 0).active = 1 := by
  have hothers : ∀ w v, Rush.Breaks w v → w.Elsewhere v := by
    rintro w _ rfl
    exact Rush.elsewhere_breakFirst w
  have hlater : ∀ w v, Rush.Breaks w v →
      Backend.Later Backend.Final.has w.backend.driver v.backend.driver := by
    rintro w _ rfl
    exact Sim.Cluster.later_modifyConn 0 w.backend.driver fun _ => rfl
  obtain ⟨hactive, hnodup, -, hclosing, hfree⟩ := accounts_of_run hothers Rush.fresh_start rfl Rush.run_finish
  have hopened : Rush.finish.world.opened = [1, 0] := by decide +kernel
  refine ⟨by decide +kernel, hopened, hactive, hnodup ?_, hclosing inferInstance hlater, hfree ?_⟩
  · rw [hopened]
    decide
  · exact List.length_eq_zero_iff.1 (by decide +kernel)

end ReplicaRouter.World
