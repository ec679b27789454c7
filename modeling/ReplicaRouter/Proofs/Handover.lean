import ReplicaRouter.Proofs.Circulation
/-
What calls do to pools, handles and the cache, one thing at a time: connections are taken from the shelf of a pool and
put back, handed out and given back, left to be closed and told to close, and pools are created and closed.
Main statements: each of these keeps where everything is (`World.Circulates.take`, `World.Circulates.lend`,
`World.Circulates.giveBack`, `World.Circulates.close`, `World.Circulates.install`).
-/
namespace ReplicaRouter

open Freight

variable {D : Type}

namespace World

/-! ## Worlds after handing out and giving back -/

/-- The world once a connection was handed out. -/
def lending (p : PoolId) (c : ConnId) (w : World D) : World D :=
  { w.modifyPool p Pool.lend with handles := w.handles ++ [{ pool := p, conn := c }] }

/-- The world once a handle was given back, before its pool has counted that. -/
abbrev marking (h : HandleId) (w : World D) : World D := w.modifyHandle h fun e => { e with returned := true }

/-- The world once a handle was given back and its pool has counted that. -/
def returning (h : HandleId) (w : World D) : World D := (w.marking h).modifyPool (w.handle h).pool Pool.unlend

section Handing

variable {w : World D} {p q : PoolId} {c : ConnId} {h i : HandleId}

theorem length_handles_lending (p : PoolId) (c : ConnId) (w : World D) :
    (w.lending p c).handles.length = w.handles.length + 1 := by
  simp [lending]

theorem handle_lending_of_lt (hi : i < w.handles.length) : (w.lending p c).handle i = w.handle i :=
  handle_append_of_lt _ (w := w.modifyPool p Pool.lend) hi

theorem handle_lending_length (p : PoolId) (c : ConnId) (w : World D) :
    (w.lending p c).handle w.handles.length = { pool := p, conn := c } :=
  handle_append_length _ (w.modifyPool p Pool.lend)

theorem lent_lending (p : PoolId) (c : ConnId) (w : World D) : (w.lending p c).lent = w.lent ++ [c] :=
  lent_append p c (w.modifyPool p Pool.lend)

/-- What the pools say besides how many handles are out. -/
theorem pool_lending (hp : p < w.pools.length) (q : PoolId) :
    ((w.lending p c).pool q).key = (w.pool q).key ∧ ((w.lending p c).pool q).closed = (w.pool q).closed ∧
      ((w.lending p c).pool q).idle = (w.pool q).idle ∧
      ((w.lending p c).pool q).active = if q = p then (w.pool q).active + 1 else (w.pool q).active := by
  have hpool : (w.lending p c).pool q = if q = p then (w.pool p).lend else w.pool q := pool_modifyPool hp _ q
  rw [hpool]
  split
  · next he => rw [he]; exact ⟨rfl, rfl, rfl, rfl⟩
  · exact ⟨rfl, rfl, rfl, rfl⟩

theorem handle_returning (hh : h < w.handles.length) (i : HandleId) :
    (w.returning h).handle i = if i = h then { w.handle h with returned := true } else w.handle i :=
  handle_modifyHandle hh _ i

theorem length_handles_returning (h : HandleId) (w : World D) : (w.returning h).handles.length = w.handles.length := by
  simp [returning, modifyHandle, modifyPool]

theorem pool_returning (hp : (w.handle h).pool < w.pools.length) (q : PoolId) :
    ((w.returning h).pool q).key = (w.pool q).key ∧ ((w.returning h).pool q).closed = (w.pool q).closed ∧
      ((w.returning h).pool q).idle = (w.pool q).idle ∧ ((w.returning h).pool q).active =
        if q = (w.handle h).pool then (w.pool q).active - 1 else (w.pool q).active := by
  have hpool : (w.returning h).pool q = if q = (w.handle h).pool then (w.pool (w.handle h).pool).unlend else w.pool q :=
    pool_modifyPool (w := w.modifyHandle h fun e => { e with returned := true }) hp _ q
  rw [hpool]
  split
  · next he => rw [he]; exact ⟨rfl, rfl, rfl, rfl⟩
  · exact ⟨rfl, rfl, rfl, rfl⟩

theorem modifyPool_congr {f g : Pool → Pool} (hp : p < w.pools.length) (hfg : f (w.pool p) = g (w.pool p)) :
    w.modifyPool p f = w.modifyPool p g := by
  have hpools : w.pools.modify p f = w.pools.modify p g := by
    refine List.ext_getElem? fun i => ?_
    rw [List.getElem?_modify, List.getElem?_modify]
    by_cases hi : p = i
    · subst hi
      rw [pool, List.getD_eq_getElem?_getD, List.getElem?_eq_getElem hp, Option.getD_some] at hfg
      simp [List.getElem?_eq_getElem hp, hfg]
    · simp [hi]
  rw [modifyPool, modifyPool, hpools]

theorem shelved_lending (p : PoolId) (c : ConnId) (w : World D) : (w.lending p c).shelved = w.shelved := by
  have hidle : ∀ l : List Pool, l.flatMap Pool.idle = (l.map Pool.idle).flatten := fun l => rfl
  have hlend : ∀ P : Pool, P.lend.idle = P.idle := fun _ => rfl
  show (w.pools.modify p Pool.lend).flatMap Pool.idle = w.pools.flatMap Pool.idle
  rw [hidle, hidle, map_modify Pool.idle hlend]

theorem shelved_returning (h : HandleId) (w : World D) : (w.returning h).shelved = w.shelved := by
  have hidle : ∀ l : List Pool, l.flatMap Pool.idle = (l.map Pool.idle).flatten := fun l => rfl
  have hunlend : ∀ P : Pool, P.unlend.idle = P.idle := fun _ => rfl
  show (w.pools.modify _ Pool.unlend).flatMap Pool.idle = w.pools.flatMap Pool.idle
  rw [hidle, hidle, map_modify Pool.idle hunlend]

end Handing

/-! ## Moves -/

section Moves

variable [Backend D] {T : Terms D} {kept : Prop} {u v w w' : World D} {c : ConnId} {h n : HandleId}
  {g g' : Multiset Freight} {p : PoolId}

/-- A pool may change in anything but what it was created with, and whether it is closed. -/
theorem ensues_modifyPool (hp : p < w.pools.length) {f : Pool → Pool} (hterms : (f (w.pool p)).terms = (w.pool p).terms)
    (hclosed : (f (w.pool p)).closed = (w.pool p).closed) : w.Ensues T kept (w.modifyPool p f) := by
  refine (Follows.modifyPool hterms (fun h => hclosed.trans h) hp).ensues rfl fun q => ?_
  rw [pool_modifyPool hp]
  split
  · next he => rw [he, hclosed]
  · rfl

namespace Circulates

variable {cs left : List ConnId}

/-! ### Connections in hand -/

/-- A connection in hand that is closed need not be seen to any more. -/
theorem shed (hw : w.Circulates T kept (.conn p c ::ₘ g)) (hended : T.outlook.ended c w.backend) :
    w.Circulates T kept g := by
  refine hw.moved (T.outlook.refl _) rfl rfl rfl (fun _ => rfl) (by simp) hw.shut (fun d => ?_)
    (fun q d h =>
      h.moved (T.outlook.refl _) (.of_bare rfl) (List.Subset.refl _) .idle (fun hd => ?_) .orphaned fun n hd => ?_)
    (fun d => .inl) fun d n hd => hw.barred d n (Multiset.mem_cons_of_mem hd)
  · simp only [connsOf_cons, Multiset.count_add]
    omega
  · rcases Multiset.mem_cons.1 hd with he | hd
    · cases he
      exact .ended hended
    · exact .inHand hd
  · exact .doomed ((Multiset.mem_cons.1 hd).resolve_left nofun)

/-- A connection in hand is to be closed from now on. -/
theorem doom (hw : w.Circulates T kept (.conn p c ::ₘ g)) (hbarred : w.Barred c n) :
    w.Circulates T kept (.doomed c n ::ₘ g) := by
  refine hw.moved (T.outlook.refl _) rfl rfl rfl (fun _ => rfl) (by simp) hw.shut (fun d => by simp)
    (fun q d h =>
      h.moved (T.outlook.refl _) (.of_bare rfl) (List.Subset.refl _) .idle (fun hd => ?_) .orphaned fun m hd => ?_)
    (fun d => .inl) fun d m hd => ?_
  · rcases Multiset.mem_cons.1 hd with he | hd
    · cases he
      exact .doomed (Multiset.mem_cons_self _ _)
    · exact .inHand (Multiset.mem_cons_of_mem hd)
  · exact .doomed (Multiset.mem_cons_of_mem ((Multiset.mem_cons.1 hd).resolve_left nofun))
  · rcases Multiset.mem_cons.1 hd with he | hd
    · cases he
      exact hbarred
    · exact hw.barred d m (Multiset.mem_cons_of_mem hd)

/-- A connection in hand is left to be closed. -/
theorem strand (hw : w.Circulates T kept (.conn p c ::ₘ g)) :
    ({ w with orphans := w.orphans ++ [c] } : World D).Circulates T kept g := by
  refine hw.moved (T.outlook.refl _) rfl rfl rfl (fun _ => rfl) (by simp) hw.shut (fun d => ?_)
    (fun q d h => h.moved (T.outlook.refl _) (.of_bare rfl) (List.Subset.refl _) (fun hd => .idle hd) (fun hd => ?_)
      (fun hd => ?_) fun n hd => ?_)
    (fun d => .inl) fun d n hd => hw.barred d n (Multiset.mem_cons_of_mem hd)
  · simp only [connsOf_cons, Multiset.count_add, Freight.conns, Multiset.count_singleton, List.count_append,
      List.count_singleton, beq_iff_eq, eq_comm (a := c)]
    show w.shelved.count d + _ + _ + w.hungUp.count d ≤ _
    omega
  · rcases Multiset.mem_cons.1 hd with he | hd
    · cases he
      exact .orphaned (List.mem_append_right _ (List.mem_singleton_self c))
    · exact .inHand hd
  · exact .orphaned (List.mem_append_left _ hd)
  · exact .doomed ((Multiset.mem_cons.1 hd).resolve_left nofun)

/-- A connection that was left to be closed is taken up. -/
theorem adopt (hw : w.Circulates T kept g) (horphans : w.orphans = c :: cs) :
    ({ w with orphans := cs } : World D).Circulates T kept (.doomed c w.handles.length ::ₘ g) := by
  refine hw.moved (T.outlook.refl _) rfl rfl rfl (fun _ => rfl) (by simp) hw.shut (fun d => ?_)
    (fun q d h => h.moved (T.outlook.refl _) (.of_bare rfl) (List.Subset.refl _) (fun hd => .idle hd) (fun hd => ?_)
      (fun hd => ?_) fun n hd => ?_)
    (fun d => .inl) fun d n hd => ?_
  · simp only [connsOf_cons, Multiset.count_add, Freight.conns, Multiset.count_singleton, horphans, List.count_cons,
      beq_iff_eq, eq_comm (a := c)]
    show w.shelved.count d + _ + _ + w.hungUp.count d ≤ _
    omega
  · exact .inHand (Multiset.mem_cons_of_mem hd)
  · rw [horphans] at hd
    rcases List.mem_cons.1 hd with rfl | hd
    · exact .doomed (Multiset.mem_cons_self _ _)
    · exact .orphaned hd
  · exact .doomed (Multiset.mem_cons_of_mem hd)
  · rcases Multiset.mem_cons.1 hd with he | hd
    · cases he
      exact barred_length c w
    · exact hw.barred d n hd

/-- A connection that was told to close is done with. -/
theorem hangUp {r : Except RouteError Unit} (hw : w.Circulates T kept (.doomed c n ::ₘ g))
    (hover : T.outlook.trusting ∨ T.outlook.ended c w.backend) :
    (Journaled.note (.call (.close c r)) w : World D).Circulates T kept g := by
  have hup : (Journaled.note (.call (.close c r)) w : World D).hungUp = c :: w.hungUp := rfl
  refine hw.moved (T.outlook.refl _) rfl rfl rfl (fun _ => rfl) (by simp) hw.shut (fun d => ?_)
    (fun q d h => h.moved (T.outlook.refl _) (.of_bare rfl) (List.subset_cons_self c _)
      (fun hd => .idle hd) (fun hd => ?_)
      (fun hd => .orphaned hd) fun m hd => ?_)
    (fun d hd => ?_) fun d n hd => hw.barred d n (Multiset.mem_cons_of_mem hd)
  · rw [hup]
    simp only [connsOf_cons, Multiset.count_add, Freight.conns, Multiset.count_singleton, List.count_cons,
      beq_iff_eq, eq_comm (a := c)]
    show w.shelved.count d + w.orphans.count d + _ + _ ≤ _
    omega
  · exact .inHand ((Multiset.mem_cons.1 hd).resolve_left nofun)
  · rcases Multiset.mem_cons.1 hd with he | hd
    · cases he
      exact .hungUp List.mem_cons_self
    · exact .doomed hd
  · rcases List.mem_cons.1 (hup ▸ hd) with rfl | hd
    · exact .inr hover
    · exact .inl hd

/-! ### Idle connections -/

/-- The shelf of a pool is filled anew from what was there and what somebody had in hand, and the other way round. -/
theorem reshelve (hw : w.Circulates T kept g) (hp : p < w.pools.length) (hg : handlesOf g' = handlesOf g)
    (shut : (w.pool p).closed = true → left = [])
    (once : ∀ d, left.count d + (connsOf g').count d ≤ (w.pool p).idle.count d + (connsOf g).count d)
    (idle : ∀ d ∈ (w.pool p).idle, d ∈ left ∨ .conn p d ∈ g' ∨ T.outlook.ended d w.backend)
    (inHand : ∀ q d, .conn q d ∈ g → .conn q d ∈ g' ∨ q = p ∧ d ∈ left)
    (doomed : ∀ d n, .doomed d n ∈ g ↔ .doomed d n ∈ g') :
    (w.modifyPool p fun P => { P with idle := left }).Circulates T kept g' := by
  have hpool := pool_modifyPool hp fun P => { P with idle := left }
  have hidle : ∀ d ∈ left, d ∈ ((w.modifyPool p fun P => { P with idle := left }).pool p).idle := fun d hd => by
    rw [hpool, if_pos rfl]
    exact hd
  have hshell : ∀ P : Pool, ({ P with idle := left } : Pool).shell = P.shell := fun _ => rfl
  -- only idle connections and those in hand change places; handles, counts and what is doomed stay
  refine hw.moved (T.outlook.refl _) rfl rfl (map_modify Pool.shell hshell w.pools p) (fun _ => rfl) hg
    (fun q hq => ?_) (fun d => ?_)
    (fun q d h => h.moved (T.outlook.refl _) (.of_bare rfl) (List.Subset.refl _) (fun hd => ?_) (fun hd => ?_)
      (fun hd => .orphaned hd) fun n hd => .doomed ((doomed d n).1 hd))
    (fun d => .inl) fun d n hd => hw.barred d n ((doomed d n).2 hd)
  · rw [hpool] at hq ⊢
    split at hq
    · next he =>
      rw [if_pos he]
      exact shut hq
    · next he =>
      rw [if_neg he]
      exact hw.shut q hq
  · have hshelved := count_shelved_modifyPool hp (fun P => { P with idle := left }) d
    have hbound := once d
    show _ + w.orphans.count d + _ + w.hungUp.count d ≤ _
    dsimp only at hshelved
    omega
  · by_cases hq : q = p
    · subst hq
      rcases idle d hd with hd | hd | hd
      · exact .idle (hidle d hd)
      · exact .inHand hd
      · exact .ended hd
    · refine .idle ?_
      rw [hpool, if_neg hq]
      exact hd
  · rcases inHand q d hd with hd | ⟨rfl, hd⟩
    · exact .inHand hd
    · exact .idle (hidle d hd)

/-- The first idle connection that is not closed is taken. -/
theorem take (hw : w.Circulates T kept g) (hp : p < w.pools.length) (hidle : (w.pool p).idle = cs ++ c :: left)
    (hended : ∀ d ∈ cs, T.outlook.ended d w.backend) :
    (w.modifyPool p fun P => { P with idle := left }).Circulates T kept (.conn p c ::ₘ g) := by
  refine hw.reshelve hp (by simp) (fun hclosed => ?_) (fun d => ?_) (fun d hd => ?_)
    (fun q d hd => .inl (Multiset.mem_cons_of_mem hd)) fun d n => by simp
  · have hnone := hw.shut p hclosed
    rw [hidle] at hnone
    simp at hnone
  · rw [hidle]
    simp only [connsOf_cons, Multiset.count_add, Freight.conns, Multiset.count_singleton, List.count_append,
      List.count_cons, beq_iff_eq, eq_comm (a := c)]
    omega
  · rw [hidle] at hd
    rcases List.mem_append.1 hd with hd | hd
    · exact .inr (.inr (hended d hd))
    · rcases List.mem_cons.1 hd with rfl | hd
      · exact .inr (.inl (Multiset.mem_cons_self _ _))
      · exact .inl hd

/-- Idle connections that are all closed are taken off. -/
theorem drain (hw : w.Circulates T kept g) (hp : p < w.pools.length)
    (hended : ∀ d ∈ (w.pool p).idle, T.outlook.ended d w.backend) :
    (w.modifyPool p fun P => { P with idle := [] }).Circulates T kept g :=
  hw.reshelve hp rfl (fun _ => rfl) (fun d => by simp) (fun d hd => .inr (.inr (hended d hd))) (fun _ _ => .inl)
    fun _ _ => Iff.rfl

/-- A connection in hand is put among the idle ones of its pool, which is open. -/
theorem put (hw : w.Circulates T kept (.conn p c ::ₘ g)) (hp : p < w.pools.length) (hopen : (w.pool p).closed = false) :
    (w.modifyPool p fun P => { P with idle := c :: P.idle }).Circulates T kept g := by
  rw [modifyPool_congr hp (g := fun P => { P with idle := c :: (w.pool p).idle }) rfl]
  refine hw.reshelve hp (by simp) (fun hclosed => ?_) (fun d => ?_) (fun d hd => .inl (List.mem_cons_of_mem c hd))
    (fun q d hd => ?_) fun d n => by simp
  · rw [hopen] at hclosed
    cases hclosed
  · simp only [connsOf_cons, Multiset.count_add, Freight.conns, Multiset.count_singleton, List.count_cons, beq_iff_eq,
      eq_comm (a := c)]
    omega
  · rcases Multiset.mem_cons.1 hd with he | hd
    · cases he
      exact .inr ⟨rfl, List.mem_cons_self⟩
    · exact .inl hd

end Circulates

/-! ### Handing out -/

section Lending

omit [Backend D] in
theorem lt_or_eq_of_lending {i : HandleId} (hi : i < (w.lending p c).handles.length) :
    i < w.handles.length ∨ i = w.handles.length := by
  rw [length_handles_lending] at hi
  exact Nat.lt_or_eq_of_le (Nat.le_of_lt_succ hi)

omit [Backend D] in
theorem lt_lending {i : HandleId} (hi : i < w.handles.length) : i < (w.lending p c).handles.length := by
  rw [length_handles_lending]
  exact Nat.lt_succ_of_lt hi

omit [Backend D] in
theorem Tallies.lend (ht : w.Tallies) (hp : p < w.pools.length) : (w.lending p c).Tallies := by
  have hpools : (w.lending p c).pools.length = w.pools.length := by simp [lending, modifyPool]
  refine ⟨fun i hi => ?_, fun q hq => ?_⟩
  · rw [hpools]
    rcases lt_or_eq_of_lending hi with hi | rfl
    · rw [handle_lending_of_lt hi]
      exact ht.lender i hi
    · rw [handle_lending_length]
      exact hp
  · have hcount : ((w.lending p c).outOf q).length = if q = p then (w.outOf q).length + 1 else (w.outOf q).length :=
      length_outOf_append { pool := p, conn := c } q w rfl
    rw [(pool_lending hp q).2.2.2, hcount, ht.active q (hpools ▸ hq)]

omit [Backend D] in
theorem Catalogued.lend (hc : Catalogued kept w) (hp : p < w.pools.length) : Catalogued kept (w.lending p c) := by
  have hpools : (w.lending p c).pools.length = w.pools.length := by simp [lending, modifyPool]
  refine ⟨fun k q hk => ?_, fun hkept q hq hopen => ?_⟩
  · rw [(pool_lending hp q).1, hpools]
    exact hc.cached k q hk
  · rw [(pool_lending hp q).2.1] at hopen
    rw [(pool_lending hp q).1]
    exact hc.kept hkept q (hpools ▸ hq) hopen

omit [Backend D] in
/-- Handing one connection out is nothing to another one. -/
theorem Barred.lend {d : ConnId} (hd : w.Barred d n) (hne : w.opened.Nodup → c ≠ d) : (w.lending p c).Barred d n := by
  intro hn i hle hi
  rcases lt_or_eq_of_lending hi with hi | rfl
  · rw [handle_lending_of_lt hi]
    exact hd hn i hle hi
  · rw [handle_lending_length]
    exact hne hn

omit [Backend D] in
theorem Untouched.lend (hu : w.Untouched g) (hne : w.opened.Nodup → ∀ i, .fresh i ∈ g → c ≠ (w.handle i).conn) :
    (w.lending p c).Untouched (.fresh w.handles.length ::ₘ g) := by
  refine ⟨?_, fun i hi => ?_, fun i hi => ?_⟩
  · rw [handlesOf_cons]
    refine Multiset.nodup_cons.2 ⟨fun hm => ?_, hu.nodup⟩
    exact absurd (hu.fresh _ (mem_handlesOf.1 hm)).1 (Nat.lt_irrefl _)
  · rcases Multiset.mem_cons.1 hi with he | hi
    · cases he
      rw [handle_lending_length, length_handles_lending]
      exact ⟨Nat.lt_succ_self _, rfl, rfl⟩
    · obtain ⟨hi, hr, hholders⟩ := hu.fresh i hi
      rw [handle_lending_of_lt hi]
      exact ⟨lt_lending hi, hr, hholders⟩
  · rcases Multiset.mem_cons.1 hi with he | hi
    · cases he
      rw [← length_handles_lending p c w]
      exact barred_length _ _
    · rw [handle_lending_of_lt (hu.fresh i hi).1]
      exact (hu.last i hi).lend fun hn => hne hn i hi

/-- The connection that is handed out is with its handle, and all others are where they were. -/
theorem Lodged.lend {q : PoolId} {d : ConnId} (hp : p < w.pools.length) (h : w.Lodged T (.conn p c ::ₘ g) q d) :
    (w.lending p c).Lodged T (.fresh w.handles.length ::ₘ g) q d := by
  cases h with
  | idle mem => exact .idle ((pool_lending hp q).2.2.1 ▸ mem)
  | @lent i lt out pool_eq conn_eq =>
    have hi := handle_lending_of_lt (p := p) (c := c) lt
    exact .lent (lt_lending lt) (hi ▸ out) (hi ▸ pool_eq) (hi ▸ conn_eq)
  | inHand mem =>
    rcases Multiset.mem_cons.1 mem with he | mem
    · obtain ⟨rfl, rfl⟩ := Freight.conn.inj he
      have hnew := handle_lending_length q d w
      exact .lent (i := w.handles.length) (by rw [length_handles_lending]; exact Nat.lt_succ_self _) (by rw [hnew])
        (by rw [hnew]) (by rw [hnew])
    · exact .inHand (Multiset.mem_cons_of_mem mem)
  | orphaned mem => exact .orphaned mem
  | doomed mem => exact .doomed (Multiset.mem_cons_of_mem ((Multiset.mem_cons.1 mem).resolve_left nofun))
  | ended ended => exact .ended ended
  | hungUp mem => exact .hungUp mem

/-- A connection in hand is handed out. -/
theorem Circulates.lend (hw : w.Circulates T kept (.conn p c ::ₘ g)) (hp : p < w.pools.length) :
    (w.lending p c).Circulates T kept (.fresh w.handles.length ::ₘ g) := by
  -- whatever is with somebody else is another connection
  have hother : ∀ d, 0 < w.lent.count d + (connsOf g).count d → w.opened.Nodup → c ≠ d := by
    rintro d hpos hn rfl
    have hone := hw.count_le_one hn c
    rw [connsOf_cons, Multiset.count_add, Freight.conns, Multiset.count_singleton_self] at hone
    omega
  have hu : w.Untouched g :=
    hw.toUntouched.of_bare (by simp) id rfl
  refine ⟨hw.toTallies.lend hp, hw.toCatalogued.lend hp, hu.lend fun hn i hi => ?_, fun q hq => ?_, fun d => ?_,
    fun i hi => ?_, hw.has, hw.ended, fun d n hd => ?_⟩
  · obtain ⟨hlt, hr, -⟩ := hu.fresh i hi
    exact hother _ (Nat.add_pos_left (count_lent_pos hlt hr) _) hn
  · rw [(pool_lending hp q).2.2.1]
    exact hw.shut q ((pool_lending hp q).2.1 ▸ hq)
  · have hone := hw.once d
    rw [shelved_lending, lent_lending, List.count_append, List.count_singleton]
    simp only [connsOf_cons, Multiset.count_add, Freight.conns, Multiset.count_singleton, beq_iff_eq,
      eq_comm (a := c), Multiset.count_zero] at hone ⊢
    show _ + _ + w.orphans.count d + _ + w.hungUp.count d ≤ w.opened.count d
    omega
  · rcases lt_or_eq_of_lending hi with hi | rfl
    · rw [handle_lending_of_lt hi]
      exact (hw.placed i hi).lend hp
    · rw [handle_lending_length]
      exact Lodged.lend hp (.inHand (Multiset.mem_cons_self _ _))
  · have hd : .doomed d n ∈ g := (Multiset.mem_cons.1 hd).resolve_left nofun
    have hpos : 0 < (connsOf g).count d :=
      Multiset.count_pos.2 (Multiset.mem_bind.2 ⟨_, hd, Multiset.mem_singleton_self d⟩)
    exact (hw.barred d n (Multiset.mem_cons_of_mem hd)).lend (hother d (Nat.add_pos_right _ hpos))

/-- What is handed out was not told to close. -/
theorem Circulates.ensues_lending (hw : w.Circulates T kept (.conn p c ::ₘ g)) (hp : p < w.pools.length) :
    w.Ensues T kept (w.lending p c) := by
  have hterms : ∀ P : Pool, P.lend.terms = P.terms := fun _ => rfl
  have hcount : w.Follows T (w.modifyPool p Pool.lend) := .modifyPool (hterms _) id hp
  have happend : (w.modifyPool p Pool.lend).Follows T (w.lending p c) :=
    { Follows.refl (T := T) (w.modifyPool p Pool.lend) with
      toHandlesStay := (Aside.append_handle _ (w.modifyPool p Pool.lend)).toHandlesStay
      lender := fun i hi => by
        rw [show (w.lending p c).handle i = (w.modifyPool p Pool.lend).handle i from handle_append_of_lt _ hi] }
  refine ⟨hcount.trans happend, fun _ i _ _ hopen => (pool_lending hp _).2.1.trans hopen, fun hn i hle hi => ?_⟩
  obtain rfl : i = w.handles.length := (lt_or_eq_of_lending hi).resolve_left (Nat.not_lt.2 hle)
  rw [handle_lending_length]
  exact hw.not_hungUp hn

end Lending

/-! ### Giving back -/

section Returning

variable (hh : h < w.handles.length) (hr : (w.handle h).returned = false)

omit [Backend D] in
include hh in
theorem handle_returning_eq (i : HandleId) : ((w.returning h).handle i).pool = (w.handle i).pool ∧
    ((w.returning h).handle i).conn = (w.handle i).conn ∧ ((w.returning h).handle i).holders = (w.handle i).holders ∧
    (i ≠ h → ((w.returning h).handle i).returned = (w.handle i).returned) := by
  rw [handle_returning hh]
  split
  · next he => rw [he]; exact ⟨rfl, rfl, rfl, fun hne => absurd rfl hne⟩
  · exact ⟨rfl, rfl, rfl, fun _ => rfl⟩

omit [Backend D] in
include hh hr in
theorem Tallies.giveBack (ht : w.Tallies) : (w.returning h).Tallies := by
  have hpools : (w.returning h).pools.length = w.pools.length := by simp [returning, modifyPool, modifyHandle]
  refine ⟨fun i hi => ?_, fun q hq => ?_⟩
  · rw [hpools, (handle_returning_eq hh i).1]
    exact ht.lender i (length_handles_returning h w ▸ hi)
  · have hcount := length_outOf_return hh hr q
    rw [(pool_returning (ht.lender h hh) q).2.2.2, ht.active q (hpools ▸ hq)]
    exact hcount.symm

omit [Backend D] in
theorem Catalogued.giveBack (hc : Catalogued kept w) (hp : (w.handle h).pool < w.pools.length) :
    Catalogued kept (w.returning h) := by
  have hpools : (w.returning h).pools.length = w.pools.length := by simp [returning, modifyPool, modifyHandle]
  refine ⟨fun k q hk => ?_, fun hkept q hq hopen => ?_⟩
  · rw [(pool_returning hp q).1, hpools]
    exact hc.cached k q hk
  · rw [(pool_returning hp q).2.1] at hopen
    rw [(pool_returning hp q).1]
    exact hc.kept hkept q (hpools ▸ hq) hopen

omit [Backend D] in
include hh in
theorem Barred.giveBack {d : ConnId} (hd : w.Barred d n) : (w.returning h).Barred d n :=
  hd.of_conns id (length_handles_returning h w) fun i => (handle_returning_eq hh i).2.1

omit [Backend D] in
include hh in
theorem Untouched.giveBack (hu : w.Untouched g) (hfree : .fresh h ∉ g) (f : Freight) (hf : f.handles = 0) :
    (w.returning h).Untouched (f ::ₘ g) := by
  have hold : ∀ i, .fresh i ∈ f ::ₘ g → .fresh i ∈ g := fun i hi => by
    rw [← mem_handlesOf, handlesOf_cons, hf, zero_add] at hi
    exact mem_handlesOf.1 hi
  refine ⟨?_, fun i hi => ?_, fun i hi => ?_⟩
  · rw [handlesOf_cons, hf, zero_add]
    exact hu.nodup
  · have hne : i ≠ h := fun he => hfree (he ▸ hold i hi)
    obtain ⟨-, -, hholders, hreturned⟩ := handle_returning_eq hh i
    rw [length_handles_returning, hreturned hne, hholders]
    exact hu.fresh i (hold i hi)
  · rw [(handle_returning_eq hh i).2.1]
    exact (hu.last i (hold i hi)).giveBack hh

include hh in
/-- The connection of the handle is in hand, and all others are where they were. -/
theorem Lodged.giveBack {q : PoolId} {d : ConnId} (hp : (w.handle h).pool < w.pools.length) (hd : w.Lodged T g q d) :
    (w.returning h).Lodged T (.conn (w.handle h).pool (w.handle h).conn ::ₘ g) q d := by
  cases hd with
  | idle mem => exact .idle ((pool_returning hp q).2.2.1 ▸ mem)
  | @lent i lt out pool_eq conn_eq =>
    by_cases hi : i = h
    · subst hi
      rw [← pool_eq, ← conn_eq]
      exact .inHand (Multiset.mem_cons_self _ _)
    · obtain ⟨hpool, hconn, -, hreturned⟩ := handle_returning_eq hh i
      exact .lent (length_handles_returning h w ▸ lt) ((hreturned hi).trans out) (hpool.trans pool_eq)
        (hconn.trans conn_eq)
  | inHand mem => exact .inHand (Multiset.mem_cons_of_mem mem)
  | orphaned mem => exact .orphaned mem
  | doomed mem => exact .doomed (Multiset.mem_cons_of_mem mem)
  | ended ended => exact .ended ended
  | hungUp mem => exact .hungUp mem

include hh hr in
/-- A handle that nobody else has only just been given comes back, and its connection is in hand. -/
theorem Circulates.giveBack (hw : w.Circulates T kept g) (hfree : .fresh h ∉ g) :
    (w.returning h).Circulates T kept (.conn (w.handle h).pool (w.handle h).conn ::ₘ g) := by
  have hp := hw.lender h hh
  refine ⟨hw.toTallies.giveBack hh hr, hw.toCatalogued.giveBack hp, hw.toUntouched.giveBack hh hfree _ rfl,
    fun q hq => ?_, fun d => ?_, fun i hi => ?_, hw.has, hw.ended, fun d n hd => ?_⟩
  · rw [(pool_returning hp q).2.2.1]
    exact hw.shut q ((pool_returning hp q).2.1 ▸ hq)
  · have hone := hw.once d
    have hlent : w.lent.count d = ((w.handle h).conn :: (w.returning h).lent).count d := (lent_return hh hr).count_eq d
    rw [List.count_cons] at hlent
    rw [shelved_returning]
    simp only [connsOf_cons, Multiset.count_add, Freight.conns, Multiset.count_singleton, beq_iff_eq,
      eq_comm (a := (w.handle h).conn)] at hlent ⊢
    show _ + _ + w.orphans.count d + _ + w.hungUp.count d ≤ w.opened.count d
    omega
  · obtain ⟨hpool, hconn, -⟩ := handle_returning_eq hh i
    rw [hpool, hconn]
    exact (hw.placed i (length_handles_returning h w ▸ hi)).giveBack hh hp
  · exact (hw.barred d n ((Multiset.mem_cons.1 hd).resolve_left nofun)).giveBack hh

include hh in
theorem ensues_marking : w.Ensues T kept (w.marking h) := by
  have hmark : w.Follows T (w.marking h) := .modifyHandle (fun _ => rfl) (fun _ => rfl) (fun _ _ => rfl) hh
  exact hmark.ensues (by simp [modifyHandle]) fun _ => rfl

include hh in
theorem Tallies.ensues_returning (ht : w.Tallies) : (w.marking h).Ensues T kept (w.returning h) :=
  ensues_modifyPool (w := w.marking h) (ht.lender h hh) rfl rfl

end Returning

/-! ### Holding -/

/-- Who has a handle that nobody holds yet need not keep it for himself. -/
theorem Circulates.forget (hw : w.Circulates T kept (.fresh h ::ₘ g)) : w.Circulates T kept g := by
  have hmem : ∀ {f}, f ∈ g → f ∈ .fresh h ::ₘ g := fun hf => Multiset.mem_cons_of_mem hf
  have hnodup := hw.toUntouched.nodup
  rw [handlesOf_cons] at hnodup
  refine ⟨hw.toTallies, hw.toCatalogued, ⟨(Multiset.nodup_cons.1 hnodup).2, fun i hi => hw.fresh i (hmem hi),
    fun i hi => hw.last i (hmem hi)⟩, hw.shut, fun d => ?_, fun i hi => ?_, hw.has, hw.ended,
    fun d n hd => hw.barred d n (hmem hd)⟩
  · have hone := hw.once d
    rwa [connsOf_cons, Freight.conns, zero_add] at hone
  · exact (hw.placed i hi).moved (T.outlook.refl _) (.of_bare rfl) (List.Subset.refl _) .idle
      (fun hd => .inHand ((Multiset.mem_cons.1 hd).resolve_left nofun)) .orphaned
      fun n hd => .doomed ((Multiset.mem_cons.1 hd).resolve_left nofun)

/-- How many places hold a handle matters only to who has it for himself. -/
theorem Circulates.grip (hw : w.Circulates T kept g) (hh : h < w.handles.length) (hfree : .fresh h ∉ g)
    {f : Handle → Handle} (hf : ∀ e, (f e).pool = e.pool ∧ (f e).conn = e.conn ∧ (f e).returned = e.returned) :
    (w.modifyHandle h f).Circulates T kept g := by
  have hcases := fun i => handle_modifyHandle hh f i
  -- all that the invariant reads of a handle is the same, but for the number of its holders
  have hsame : w.HandlesSame (w.modifyHandle h f) := by
    refine ⟨by simp [modifyHandle], fun i => ?_, fun i => ?_, fun i => ?_⟩ <;> rw [hcases] <;> split
    · next he => rw [(hf _).1, he]
    · rfl
    · next he => rw [(hf _).2.1, he]
    · rfl
    · next he => rw [(hf _).2.2, he]
    · rfl
  have hlent : (w.modifyHandle h f).lent = w.lent :=
    map_filter_modify (fun e => by rw [(hf e).2.2]) (fun e => (hf e).2.1) w.handles h
  refine ⟨⟨fun i hi => ?_, fun p hp => ?_⟩, ⟨hw.cached, hw.toCatalogued.kept⟩,
    ⟨hw.toUntouched.nodup, fun i hi => ?_, fun i hi => ?_⟩, hw.shut, fun d => ?_, fun i hi => ?_, hw.has, hw.ended,
    fun d n hd => ?_⟩
  · rw [hsame.pool]
    exact hw.lender i (hsame.length_eq ▸ hi)
  · have hout : ((w.modifyHandle h f).outOf p).length = (w.outOf p).length := by
      have hmap := map_filter_modify (q := fun e : Handle => !e.returned && e.pool == p) (k := fun _ => ())
        (fun e => by rw [(hf e).1, (hf e).2.2]) (fun _ => rfl) w.handles h
      simpa [outOf, modifyHandle] using congrArg List.length hmap
    rw [hout]
    exact hw.active p hp
  · obtain ⟨hlt, hr, hholders⟩ := hw.fresh i hi
    have hne : i ≠ h := fun he => hfree (he ▸ hi)
    rw [hsame.length_eq, hsame.returned, hcases, if_neg hne]
    exact ⟨hlt, hr, hholders⟩
  · rw [hsame.conn]
    exact (hw.last i hi).of_conns id hsame.length_eq hsame.conn
  · rw [hlent]
    exact hw.once d
  · rw [hsame.pool, hsame.conn]
    exact (hw.placed i (hsame.length_eq ▸ hi)).moved (T.outlook.refl _) hsame (List.Subset.refl _)
      (fun hd => .idle hd) .inHand (fun hd => .orphaned hd) fun _ => .doomed
  · exact (hw.barred d n hd).of_conns id hsame.length_eq hsame.conn

/-! ### Opening, creating and closing -/

/-- A connection that was opened is in hand, whatever pool it is for. -/
theorem Circulates.connect {protocol : String} {host : Host} {props : Properties} (p : PoolId)
    (hw : w.Circulates T kept g) (hhas : T.outlook.has c w.backend) :
    (Journaled.note (.call (.connect protocol host props (some c))) w : World D).Circulates T kept
      (.conn p c ::ₘ g) := by
  have hopened : (Journaled.note (.call (.connect protocol host props (some c))) w : World D).opened = c :: w.opened :=
    rfl
  have hn : (Journaled.note (.call (.connect protocol host props (some c))) w : World D).opened.Nodup →
      w.opened.Nodup := fun hn => (List.nodup_cons.1 (hopened ▸ hn)).2
  have hold : ∀ {f}, f ∈ .conn p c ::ₘ g → f ≠ .conn p c → f ∈ g := fun hf hne =>
    (Multiset.mem_cons.1 hf).resolve_left hne
  refine ⟨⟨hw.lender, hw.active⟩, ⟨hw.cached, hw.toCatalogued.kept⟩, hw.toUntouched.of_bare (by simp) hn rfl, hw.shut,
    fun d => ?_, fun i hi => ?_, fun d hd => ?_, hw.ended, fun d n hd => (hw.barred d n (hold hd nofun)).of_bare hn rfl⟩
  · have hone := hw.once d
    rw [hopened]
    simp only [connsOf_cons, Multiset.count_add, Freight.conns, Multiset.count_singleton, List.count_cons, beq_iff_eq,
      eq_comm (a := c)]
    show w.shelved.count d + w.lent.count d + w.orphans.count d + _ + w.hungUp.count d ≤ _
    omega
  · exact (hw.placed i hi).moved (T.outlook.refl _) (.of_bare rfl) (List.Subset.refl _) (fun hd => .idle hd)
      (fun hd => .inHand (Multiset.mem_cons_of_mem hd)) (fun hd => .orphaned hd)
      fun _ hd => .doomed (Multiset.mem_cons_of_mem hd)
  · rcases List.mem_cons.1 (hopened ▸ hd) with rfl | hd
    · exact hhas
    · exact hw.has d hd

omit [Backend D] in
theorem Catalogued.erase (hc : Catalogued kept w) {k : String} (hk : kept → w.poolAt? k = some p)
    (hp : kept → (w.pool p).closed = true) : Catalogued kept { w with cache := w.cache.erase k } := by
  refine ⟨fun j q hq => ?_, fun hkept q hlt hopen => ?_⟩
  · rw [poolAt?_erase] at hq
    split at hq
    · cases hq
    · exact hc.cached j q hq
  · have hold := hc.kept hkept q hlt hopen
    have hne : (w.pool q).key ≠ k := fun he => by
      rw [he, hk hkept] at hold
      cases hold
      rw [show (w.pool p).closed = false from hopen] at hp
      exact absurd (hp hkept) nofun
    show ({ w with cache := w.cache.erase k } : World D).poolAt? (w.pool q).key = some q
    rw [poolAt?_erase, if_neg hne]
    exact hold

/-- A pool that is closed may be taken out of the cache, and any pool where none is kept. -/
theorem Circulates.erase (hw : w.Circulates T kept g) {k : String} (hk : kept → w.poolAt? k = some p)
    (hp : kept → (w.pool p).closed = true) :
    ({ w with cache := w.cache.erase k } : World D).Circulates T kept g := by
  have hc := hw.toCatalogued.erase hk hp
  exact ⟨⟨hw.lender, hw.active⟩, hc, ⟨hw.toUntouched.nodup, hw.fresh, hw.last⟩, hw.shut, hw.once,
    fun i hi =>
      (hw.placed i hi).moved (T.outlook.refl _) (.of_bare rfl) (List.Subset.refl _) (fun hd => .idle hd) .inHand
      (fun hd => .orphaned hd) fun _ => .doomed, hw.has, hw.ended, hw.barred⟩

/-- The world once a pool was told to close, before its idle connections are. -/
def shutting (p : PoolId) (w : World D) : World D := w.modifyPool p fun P => { P with closed := true, idle := [] }

omit [Backend D] in
theorem pool_shutting (hp : p < w.pools.length) (q : PoolId) :
    (w.shutting p).pool q = if q = p then { w.pool p with closed := true, idle := [] } else w.pool q :=
  pool_modifyPool hp _ q

omit [Backend D] in
theorem Catalogued.close (hc : Catalogued kept w) (hp : p < w.pools.length) : Catalogued kept (w.shutting p) := by
  have hlen : (w.shutting p).pools.length = w.pools.length := by simp [shutting, modifyPool]
  refine ⟨fun k q hq => ?_, fun hkept q hq hopen => ?_⟩
  · rw [hlen, pool_shutting hp]
    split
    · next he => exact he ▸ hc.cached k q hq
    · exact hc.cached k q hq
  · rw [pool_shutting hp] at hopen ⊢
    split at hopen
    · cases hopen
    · next hne =>
      rw [if_neg hne]
      exact hc.kept hkept q (hlen ▸ hq) hopen

/-- The idle connections of a pool that is closed are to be closed. -/
theorem Circulates.close (hw : w.Circulates T kept g) (hp : p < w.pools.length) : (w.shutting p).Circulates T kept
    (((w.pool p).idle.reverse.map (.doomed · w.handles.length) : List Freight) + g) := by
  have hpool := fun q => pool_shutting hp q
  have hlen : (w.shutting p).pools.length = w.pools.length := by simp [shutting, modifyPool]
  have hdoomed : ∀ d ∈ (w.pool p).idle, .doomed d w.handles.length ∈
      (((w.pool p).idle.reverse.map (.doomed · w.handles.length) : List Freight) : Multiset Freight) + g :=
    fun d hd => Multiset.mem_add.2 (.inl (List.mem_map.2 ⟨d, List.mem_reverse.2 hd, rfl⟩))
  have hold : ∀ {f}, f ∈ g → f ∈ (((w.pool p).idle.reverse.map (.doomed · w.handles.length) : List Freight) :
      Multiset Freight) + g := fun hf => Multiset.mem_add.2 (.inr hf)
  -- what leaves the shelf is doomed at once, so it is counted as often as before and still has a place
  refine ⟨⟨fun i hi => hlen ▸ hw.lender i hi, fun q hq => ?_⟩, hw.toCatalogued.close hp,
    hw.toUntouched.of_bare (handlesOf_doomed_add _ _ g) id rfl, fun q hq => ?_, fun d => ?_, fun i hi => ?_, hw.has,
    hw.ended, fun d n hd => ?_⟩
  · have hactive := hw.active q (hlen ▸ hq)
    rw [hpool]
    split
    · next he => exact he ▸ hactive
    · exact hactive
  · rw [hpool] at hq ⊢
    split at hq
    · next he => rw [if_pos he]
    · next he =>
      rw [if_neg he]
      exact hw.shut q hq
  · have hone := hw.once d
    have hshelved : (w.shutting p).shelved.count d + (w.pool p).idle.count d = w.shelved.count d + 0 :=
      count_shelved_modifyPool hp _ d
    rw [connsOf_doomed_add, Multiset.count_add, Multiset.coe_count, List.count_reverse]
    show _ + w.lent.count d + w.orphans.count d + _ + w.hungUp.count d ≤ w.opened.count d
    omega
  · refine (hw.placed i hi).moved (T.outlook.refl _) (.of_bare rfl) (List.Subset.refl _) (fun hd => ?_)
      (fun hd => .inHand (hold hd)) (fun hd => .orphaned hd) fun _ hd => .doomed (hold hd)
    by_cases hq : (w.handle i).pool = p
    · exact .doomed (hdoomed _ (hq ▸ hd))
    · refine .idle ?_
      rw [hpool, if_neg hq]
      exact hd
  · rcases Multiset.mem_add.1 hd with hd | hd
    · obtain ⟨e, -, he⟩ := List.mem_map.1 hd
      cases he
      exact barred_length _ w
    · exact (hw.barred d n hd).of_bare id rfl

/-- A pool that is kept is closed while none of its handles is out. -/
theorem Tallies.ensues_shutting (ht : w.Tallies) (hp : p < w.pools.length) (hnone : kept → (w.pool p).active = 0) :
    w.Ensues T kept (w.shutting p) := by
  have hshutting : w.Follows T (w.shutting p) := .modifyPool rfl (fun _ => rfl) hp
  refine ⟨hshutting, fun hkept i hi hr hopen => ?_, fun _ _ hle hlt => absurd hlt (Nat.not_lt.2 hle)⟩
  rw [pool_shutting hp]
  split
  · next he =>
    have hpos := length_outOf_pos hi hr
    rw [he, ← ht.active p hp, hnone hkept] at hpos
    exact absurd hpos (Nat.lt_irrefl 0)
  · exact hopen

/-- The world once a new pool was put into the cache. -/
def installing (k : String) (P : Pool) (t : Instant) (w : World D) : World D :=
  { w with pools := w.pools ++ [P], cache := w.cache.insert k ⟨w.pools.length, t⟩ }

section Installing

variable {k : String} {P : Pool} {t : Instant}

omit [Backend D] in
theorem pool_installing_of_lt (hp : p < w.pools.length) : (w.installing k P t).pool p = w.pool p :=
  pool_append_of_lt P hp

omit [Backend D] in
theorem lt_or_eq_of_installing (hp : p < (w.installing k P t).pools.length) :
    p < w.pools.length ∧ (w.installing k P t).pool p = w.pool p ∨
      p = w.pools.length ∧ (w.installing k P t).pool p = P := by
  have hlen : (w.installing k P t).pools.length = w.pools.length + 1 := by simp [installing]
  rcases Nat.lt_or_eq_of_le (Nat.le_of_lt_succ (hlen ▸ hp)) with hlt | rfl
  · exact .inl ⟨hlt, pool_installing_of_lt hlt⟩
  · exact .inr ⟨rfl, pool_append_length P w⟩

omit [Backend D] in
theorem Catalogued.install (hc : Catalogued kept w) (hkey : P.key = k) (absent : w.poolAt? k = none) :
    Catalogued kept (w.installing k P t) := by
  have hlen : (w.installing k P t).pools.length = w.pools.length + 1 := by simp [installing]
  have hat : ∀ j, (w.installing k P t).poolAt? j = if j = k then some w.pools.length else w.poolAt? j := fun j =>
    poolAt?_insert k j _ w
  refine ⟨fun j q hq => ?_, fun hkept q hq hopen => ?_⟩
  · rw [hat] at hq
    split at hq
    · next he =>
      cases hq
      exact ⟨hlen ▸ Nat.lt_succ_self _, (congrArg Pool.key (pool_append_length P w)).trans (hkey.trans he.symm)⟩
    · obtain ⟨hlt, hj⟩ := hc.cached j q hq
      rw [pool_installing_of_lt hlt, hlen]
      exact ⟨Nat.lt_succ_of_lt hlt, hj⟩
  · rcases lt_or_eq_of_installing hq with ⟨hlt, he⟩ | ⟨rfl, he⟩
    · rw [he] at hopen ⊢
      have hold := hc.kept hkept q hlt hopen
      rw [hat, if_neg fun hk => by rw [hk, absent] at hold; cases hold]
      exact hold
    · rw [he, hat, if_pos hkey]

/-- A new pool is put into the cache at once. -/
theorem Circulates.install (hw : w.Circulates T kept g) (hkey : P.key = k) (absent : w.poolAt? k = none)
    (hidle : P.idle = []) (hactive : P.active = 0) : (w.installing k P t).Circulates T kept g := by
  have hlen : (w.installing k P t).pools.length = w.pools.length + 1 := by simp [installing]
  have hshelved : (w.installing k P t).shelved = w.shelved := by
    show (w.pools ++ [P]).flatMap Pool.idle = w.pools.flatMap Pool.idle
    simp [hidle]
  refine ⟨⟨fun i hi => ?_, fun q hq => ?_⟩, hw.toCatalogued.install hkey absent, hw.toUntouched.of_bare rfl id rfl,
    fun q hq => ?_, fun d => ?_, fun i hi => ?_, hw.has, hw.ended, fun d n hd => (hw.barred d n hd).of_bare id rfl⟩
  · rw [hlen]
    exact Nat.lt_succ_of_lt (hw.lender i hi)
  · rcases lt_or_eq_of_installing hq with ⟨hlt, he⟩ | ⟨rfl, he⟩
    · rw [he]
      exact hw.active q hlt
    · -- no handle is for a pool that was not there
      have hnone : w.outOf w.pools.length = [] := List.filter_eq_nil_iff.2 fun e he => by
        obtain ⟨i, hi, rfl⟩ := List.getElem_of_mem he
        have hlender := hw.lender i hi
        rw [handle, List.getD_eq_getElem?_getD, List.getElem?_eq_getElem hi] at hlender
        have hne : w.handles[i].pool ≠ w.pools.length := Nat.ne_of_lt hlender
        simp [hne]
      rw [he, hactive]
      exact (congrArg List.length hnone).symm
  · rcases lt_or_eq_of_installing (lt_of_closed hq) with ⟨-, he⟩ | ⟨-, he⟩
    · rw [he] at hq ⊢
      exact hw.shut q hq
    · rw [he]
      exact hidle
  · rw [hshelved]
    exact hw.once d
  · exact (hw.placed i hi).moved (T.outlook.refl _) (.of_bare rfl) (List.Subset.refl _)
      (fun hd => .idle (by rw [pool_installing_of_lt (hw.lender i hi)]; exact hd)) .inHand (fun hd => .orphaned hd)
      fun _ => .doomed

theorem Tallies.ensues_append (P : Pool) (ht : w.Tallies) : w.Ensues T kept { w with pools := w.pools ++ [P] } := by
  have hfollows : w.Follows T { w with pools := w.pools ++ [P] } :=
    { Follows.refl (T := T) w with
      toHandlesStay := .of_eq rfl
      pools_le := by simp
      terms := fun p hp => by rw [pool_append_of_lt P hp]
      shut := fun p hp => by rw [pool_append_of_lt P (lt_of_closed hp)]; exact hp
      lender := fun _ _ => rfl }
  refine ⟨hfollows, fun _ i hi _ hopen => ?_, fun _ _ hle hlt => absurd hlt (Nat.not_lt.2 hle)⟩
  rw [pool_append_of_lt P (ht.lender i hi)]
  exact hopen

end Installing

end Moves

end World

end ReplicaRouter
