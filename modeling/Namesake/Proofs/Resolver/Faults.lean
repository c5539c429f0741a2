import Namesake.Proofs.Resolver.Caches
import Namesake.Proofs.Resolver.Names

/-!
# The faults of a resolution

Under a whole limit a resolution ends with a name or with one of the library's own faults, whatever
it is asked for. There are two exceptions. A store that fails with a fault which is none of the
table's passes it on as it is. And a search may come to a suffix with more digits than may be
written, where the limits under which the resolver has searched leave room for that many digits.

This rests on the caches. They have room for entries, and the suffixes among these are counts whose
numerals fitted the limits of their time: a base of at least one character was before them, and the
separator. Two of these may be one character for the limit, since some letters attach to what is
behind them, U+0D4E for one; so a numeral may have one digit less than the limit, and not only two.

## Main definitions

* `Task.Keeps` — a task keeps a condition, and ends only as is said
* `Fault.Excused` — the faults with which a resolution may end
* `Quantity.IsShort` — a suffix whose numeral has fitted a limit
* `Worker.Sound`, `Session.Sound` — the caches hold such suffixes as is said, and the store fails
  only as is said
* `Resolver.WorksWithin` — the sessions in which a resolver works under limits up to a given one

## Main results

* `Resolver.resolve_keeps` — a resolution ends with a name or with an excused fault
* `Resolver.WorksWithin.sound` — the caches of a resolver that works are sound
* `Resolver.Works.exists_within` — every session in which a resolver works is such a session
-/

open Namesake.Task

namespace Namesake

open Unicode

/-! ### Conditions that are kept -/

namespace Task

variable {α β : Type} {I : Session → Prop} {t : Task α} {k : α → Task β} {a : α} {f : Fault}
variable {p ok ok' : α → Prop} {q : β → Prop} {bad bad' : Fault → Prop}

/-- Wherever the condition holds, the task ends with a result or with a fault as is said, and the
condition holds again. -/
def Keeps (I : Session → Prop) (t : Task α) (ok : α → Prop) (bad : Fault → Prop) : Prop :=
  ∀ s, I s → Ends t s (fun a s' => ok a ∧ I s') (fun f s' => bad f ∧ I s')

theorem Keeps.pure (h : ok a) : Keeps I (pure a) ok bad :=
  fun _ hs => ⟨h, hs⟩

theorem Keeps.throw (h : bad f) : Keeps I (throw f : Task α) ok bad :=
  fun _ hs => ⟨h, hs⟩

theorem Keeps.bind (h : Keeps I t p bad) (hk : ∀ a, p a → Keeps I (k a) q bad) :
    Keeps I (t >>= k) q bad := by
  intro s hs
  rw [ends_bind]
  exact (h s hs).mono (fun a s' ha => hk a ha.1 s' ha.2) fun _ _ hf => hf

/-- Nothing need be known of the result of the first one. -/
theorem Keeps.then (h : Keeps I t (fun _ => True) bad) (hk : ∀ a, Keeps I (k a) q bad) :
    Keeps I (t >>= k) q bad :=
  h.bind fun a _ => hk a

theorem Keeps.mono (h : Keeps I t ok bad) (hok : ∀ a, ok a → ok' a) (hbad : ∀ f, bad f → bad' f) :
    Keeps I t ok' bad' :=
  fun s hs => (h s hs).mono (fun a _ ha => ⟨hok a ha.1, ha.2⟩) fun f _ hf => ⟨hbad f hf.1, hf.2⟩

/-- Of two conditions both are kept. -/
theorem Keeps.and {J : Session → Prop} (h : Keeps I t ok bad)
    (hJ : Keeps J t (fun _ => True) fun _ => True) : Keeps (fun s => I s ∧ J s) t ok bad :=
  fun s hs => ((h s hs.1).and (hJ s hs.2)).mono (fun _ _ h' => ⟨h'.1.1, h'.1.2, h'.2.2⟩)
    fun _ _ h' => ⟨h'.1.1, h'.1.2, h'.2.2⟩

/-- A task that looks at its session keeps a condition if what it does then keeps it. -/
theorem Keeps.get {k : Session → Task β}
    (hk : ∀ s, I s → Ends (k s) s (fun b s' => q b ∧ I s') (fun f s' => bad f ∧ I s')) :
    Keeps I ((MonadState.get : Task Session) >>= k) q bad :=
  fun s hs => hk s hs

theorem Keeps.lift {x : Except Fault α} (hok : ∀ a, x = .ok a → ok a)
    (hbad : ∀ f, x = .error f → bad f) : Keeps I (lift x) ok bad := by
  cases x with
  | ok a => exact .pure (hok a rfl)
  | error f => exact .throw (hbad f rfl)

/-- A value under a condition is as the members of a list say, one after the other. -/
theorem Keeps.mapM {f : α → Task β} (h : ∀ a, Keeps I (f a) q bad) (l : List α) :
    Keeps I (l.mapM f) (fun bs => bs.length = l.length ∧ ∀ b ∈ bs, q b) bad := by
  induction l with
  | nil => exact .pure ⟨rfl, fun b hb => by cases hb⟩
  | cons a l ih =>
    rw [List.mapM_cons]
    refine (h a).bind fun b hb => ih.bind fun bs hbs => .pure ⟨?_, ?_⟩
    · rw [List.length_cons, List.length_cons, hbs.1]
    · exact List.forall_mem_cons.2 ⟨hb, hbs.2⟩

end Task

/-! ### Faults -/

/-- The faults with which a resolution may end under limits up to the given one: the library's own,
those that a store is expected to fail with though they are none of the table's, and the fault of a
suffix with too many digits, if the limit is longer than a numeral may be. -/
inductive Fault.Excused (widest : Int) (foreign : Fault → Prop) : Fault → Prop
  | own {f : Fault} : f.isOwn = true → Excused widest foreign f
  | foreign {f : Fault} : foreign f → Excused widest foreign f
  | unwritable : maxDigits < widest.toNat → Excused widest foreign tooManyDigits

/-- An excused fault that is none of the library's own is of one of the two other sorts. -/
theorem Fault.Excused.of_foreign {widest : Int} {foreign : Fault → Prop} {f : Fault}
    (h : Excused widest foreign f) (hforeign : f.isOwn = false) :
    foreign f ∨ maxDigits < widest.toNat ∧ f = tooManyDigits := by
  cases h with
  | own hown =>
    rw [hown] at hforeign
    cases hforeign
  | foreign hf => exact .inl hf
  | unwritable hroom => exact .inr ⟨hroom, rfl⟩

/-- A fault of the table, or one that is expected besides. -/
def Fault.IsExpected (foreign : Fault → Prop) (f : Fault) : Prop :=
  f.isTableFault = true ∨ foreign f

/-- If a request is going to fail, it does so with an expected fault. -/
def Outage.Within (foreign : Fault → Prop) (o : Outage) : Prop :=
  ∀ failure ∈ o, failure.fault.IsExpected foreign

namespace Outage

variable {foreign : Fault → Prop} {o : Outage} {request : StoreRequest} {f : Fault}

theorem Within.next (h : o.Within foreign) (hf : o.next request = some f) :
    f.IsExpected foreign := by
  obtain ⟨⟨failure, hfailure, -, rfl⟩, -⟩ := of_next hf
  exact h failure hfailure

/-- What is left after a request fails as before, if at all. -/
theorem Within.after (h : o.Within foreign) (request : StoreRequest) :
    (o.after request).Within foreign := by
  intro failure hfailure
  obtain ⟨failure', hfailure', -, hfault⟩ := of_mem_after hfailure
  rw [← hfault]
  exact h failure' hfailure'

end Outage

/-! ### Sessions -/

/-- The suffix is a count whose numeral, with something before it, has kept the limit. -/
def Quantity.IsShort (widest : Int) (q : Quantity) : Prop :=
  ∃ k : Nat, q = .whole k ∧ k < Nat.pow 10 (widest.toNat - 1)

/-- The caches have room for entries, or for none at all, and the suffixes among them are as is
said. -/
structure Worker.Sound (P : Quantity → Prop) (w : Worker) : Prop where
  suffixes : w.suffixes.Holds fun _ q => P q
  truncations : w.truncations.Holds fun _ _ => True

/-- The caches are sound, and a store request fails only as is expected. -/
structure Session.Steady (foreign : Fault → Prop) (P : Quantity → Prop) (s : Session) : Prop where
  caches : s.worker.Sound P
  outage : s.shared.outage.Within foreign

/-- The caches are sound, and a store request fails only as is expected; sets in memory need no
request. -/
structure Session.Sound (foreign : Fault → Prop) (P : Quantity → Prop) (s : Session) : Prop where
  caches : s.worker.Sound P
  outage : ∀ rows, s.shared.store = .table rows → s.shared.outage.Within foreign

theorem Session.Steady.sound {foreign : Fault → Prop} {P : Quantity → Prop} {s : Session}
    (h : s.Steady foreign P) : s.Sound foreign P :=
  ⟨h.caches, fun _ _ => h.outage⟩

theorem Session.Sound.mono {foreign : Fault → Prop} {P Q : Quantity → Prop} {s : Session}
    (h : s.Sound foreign P) (hPQ : ∀ q, P q → Q q) : s.Sound foreign Q :=
  ⟨⟨h.caches.suffixes.mono fun _ => hPQ, h.caches.truncations⟩, h.outage⟩

section Registry

variable {α : Type} {foreign : Fault → Prop} {P : Quantity → Prop} {widest : Int} {s s' : Session}
  {t : Task α} {f : Fault}
variable {ok : α → Prop} {bad : Fault → Prop} {kind : NameKind} {name : Text} {rows : Table}
variable {display : Option Text}

/-- On a table a task may rely on the outage. -/
theorem Task.Keeps.onTable (h : Keeps (Session.Steady foreign P) t ok bad) (hs : s.Sound foreign P)
    (hstore : s.shared.store = .table rows) :
    Ends t s (fun a s' => ok a ∧ s'.Sound foreign P) (fun f s' => bad f ∧ s'.Sound foreign P) :=
  (h s ⟨hs.caches, hs.outage rows hstore⟩).mono (fun _ _ h => ⟨h.1, h.2.sound⟩)
    fun _ _ h => ⟨h.1, h.2.sound⟩

theorem Session.Sound.rests (h : s.Sound foreign P) (hm : s.Rests s') : s'.Sound foreign P where
  caches := by rw [hm.looks.worker]; exact h.caches
  outage := by rw [hm.looks.store, hm.outage]; exact h.outage

theorem Session.Steady.rests (h : s.Steady foreign P) (hm : s.Rests s') : s'.Steady foreign P where
  caches := by rw [hm.looks.worker]; exact h.caches
  outage := by rw [hm.outage]; exact h.outage

theorem Task.note_keeps (entry : LogEntry) :
    Keeps (Session.Sound foreign P) (Task.note entry) (fun _ => True) bad :=
  fun _ hs => (Registry.note_rests entry).mono (fun _ _ h => ⟨trivial, hs.rests h⟩)
    fun _ _ h => h.elim

namespace Registry

theorem note_steady (entry : LogEntry) :
    Keeps (Session.Steady foreign P) (Task.note entry) (fun _ => True) bad :=
  fun _ hs => (note_rests entry).mono (fun _ _ h => ⟨trivial, hs.rests h⟩) fun _ _ h => h.elim

theorem request_steady (request : StoreRequest) :
    Keeps (Session.Steady foreign P) (Task.request request)
      (fun failed => ∀ f ∈ failed, f.IsExpected foreign) bad := by
  intro s hs
  rw [Task.request, ends_bind, ends_get, ends_bind, ends_set, ends_pure]
  exact ⟨fun f hf => hs.outage.next hf, hs.caches, hs.outage.after request⟩

/-- A fault of the table is replaced by one of the library's own; any other goes on as it is. -/
theorem fail_steady (logged operation : String) (context : Fields) (hf : f.IsExpected foreign) :
    Keeps (Session.Steady foreign P) (fail logged operation context f : Task α) ok
      (Fault.Excused widest foreign) := by
  unfold fail
  split
  · refine .get fun s hs => ?_
    refine ((note_steady _).then fun _ => (note_steady _).then fun _ => .throw ?_) s hs
    exact .own rfl
  · rename_i htable
    exact .throw (.foreign (hf.resolve_left htable))

theorem setStore_steady (store : Store) :
    Keeps (Session.Steady foreign P) (Task.setStore store) (fun _ => True) bad :=
  fun _ hs => ⟨trivial, hs.caches, hs.outage⟩

theorem claimRow_steady (rows : Table) (name : Text) (kind : NameKind) (display : Option Text) :
    Keeps (Session.Steady foreign P) (claimRow rows name kind display) (fun _ => True)
      (Fault.Excused widest foreign) := by
  have hsave : Keeps (Session.Steady foreign P) (saveRow rows name kind display)
      (fun failed => ∀ f ∈ failed, f.IsExpected foreign) (Fault.Excused widest foreign) := by
    refine (request_steady .save).bind fun failed hfailed => ?_
    cases failed with
    | some f => exact .pure hfailed
    | none =>
      dsimp only
      split
      · -- the row is there already: that is a fault of the table
        refine .pure fun f hf => ?_
        obtain rfl := Option.some.inj hf
        exact Or.inl rfl
      · exact .get fun s hs =>
          ((setStore_steady _).then fun _ => .pure fun f hf => by cases hf) s hs
  refine hsave.bind fun failed hfailed => ?_
  cases failed with
  | none => exact (note_steady _).then fun _ => .pure trivial
  | some f =>
    dsimp only
    split
    · exact (note_steady _).then fun _ => .pure trivial
    · exact fail_steady _ _ _ (hfailed f rfl)

theorem usedRow?_steady (rows : Table) (name : Text) :
    Keeps (Session.Steady foreign P) (usedRow? rows name) (fun _ => True)
      (Fault.Excused widest foreign) := by
  refine (request_steady .get).bind fun failed hfailed => ?_
  split
  · exact .pure trivial
  · exact fail_steady _ _ _ (hfailed _ rfl)
  · exact .pure trivial

theorem isUsed_keeps (name : Text) :
    Keeps (Session.Sound foreign P) (isUsed name) (fun _ => True)
      (Fault.Excused widest foreign) := by
  refine .get fun s hs => ?_
  split
  · exact ⟨trivial, hs⟩
  · rename_i rows hstore
    exact ((usedRow?_steady rows name).then fun _ => .pure trivial).onTable hs hstore

/-- Sets in memory stay sets in memory. -/
theorem setStore_keeps (sets : NameSets) :
    Keeps (Session.Sound foreign P) (Task.setStore (.memory sets)) (fun _ => True) bad :=
  fun _ hs => ⟨trivial, hs.caches, fun _ h => by cases h⟩

theorem insertNew_keeps (kind : NameKind) (name : Text) (display : Option Text) :
    Keeps (Session.Sound foreign P) (insertNew kind name display) (fun _ => True)
      (Fault.Excused widest foreign) := by
  refine .get fun s hs => ?_
  split
  · rename_i sets _
    split
    · exact ((Task.note_keeps _).then fun _ => .pure trivial) s hs
    · exact ((setStore_keeps _).then fun _ => .pure trivial) s hs
  · rename_i rows hstore
    exact (claimRow_steady rows name kind display).onTable hs hstore

/-- What another worker takes is none of this one's business. -/
theorem yieldTo_keeps (theft : Theft) :
    Keeps (Session.Sound foreign P) (yieldTo theft) (fun _ => True) bad := by
  intro s hs
  rw [yieldTo, ends_modify]
  refine ⟨trivial, ?_⟩
  dsimp only
  split
  · exact hs
  · refine ⟨hs.caches, fun rows' hrows => ?_⟩
    cases hstore : s.shared.store with
    | memory sets =>
      rw [hstore] at hrows
      cases hrows
    | table rows => exact hs.outage rows hstore

theorem interfere_keeps (name : Text) :
    Keeps (Session.Sound foreign P) (interfere name) (fun _ => True)
      (Fault.Excused widest foreign) := by
  refine .get fun s hs => ?_
  dsimp only
  split
  · exact ⟨.own rfl, hs⟩
  · split
    · -- what others are about to take does not matter for the caches and the store
      rw [ends_bind, ends_set]
      exact yieldTo_keeps _ _ ⟨⟨hs.caches.suffixes, hs.caches.truncations⟩, hs.outage⟩
    · exact ⟨trivial, hs⟩

theorem claim_keeps (kind : NameKind) (name : Text) (display : Option Text) :
    Keeps (Session.Sound foreign P) (claim kind name display) (fun _ => True)
      (Fault.Excused widest foreign) :=
  (interfere_keeps name).then fun _ => insertNew_keeps kind name display

end Registry

/-! ### Caches -/

theorem Task.lastSuffix_keeps (base : Text) (hzero : P 0) :
    Keeps (Session.Sound foreign P) (Task.lastSuffix base) P bad := by
  intro s hs
  obtain ⟨hvalue, hcache⟩ := hs.caches.suffixes.read base
  rw [Task.lastSuffix, ends_modifyGet]
  refine ⟨?_, ⟨hcache, hs.caches.truncations⟩, hs.outage⟩
  simp only [SuffixCache.last, Memo.readD]
  cases hread : (s.worker.suffixes.read? base).1 with
  | none => exact hzero
  | some q => exact hvalue q hread

theorem Task.recordSuffix_keeps (base : Text) {suffix : Quantity} (hsuffix : P suffix) :
    Keeps (Session.Sound foreign P) (Task.recordSuffix base suffix) (fun _ => True) bad := by
  refine .get fun s hs => ?_
  obtain ⟨cache, hwrite, hcache⟩ := hs.caches.suffixes.write base suffix hsuffix
  rw [hwrite, ends_bind, ends_lift]
  refine ⟨fun c hc => ?_, fun _ hf => by cases hf⟩
  obtain rfl := Except.ok.inj hc
  exact ⟨trivial, ⟨hcache, hs.caches.truncations⟩, hs.outage⟩

theorem Task.cutLength?_keeps (base : Text) (limit : Limit) :
    Keeps (Session.Sound foreign P) (Task.cutLength? base limit) (fun _ => True) bad := by
  intro s hs
  obtain ⟨-, hcache⟩ := hs.caches.truncations.read (base, limit.normal)
  exact ⟨trivial, ⟨hs.caches.suffixes, hcache⟩, hs.outage⟩

theorem Task.recordCut_keeps (base : Text) (limit : Limit) (length : Nat) :
    Keeps (Session.Sound foreign P) (Task.recordCut base limit length) (fun _ => True) bad := by
  refine .get fun s hs => ?_
  obtain ⟨cache, hwrite, hcache⟩ :=
    hs.caches.truncations.write (base, limit.normal) length trivial
  rw [TruncationCache.record, hwrite, ends_bind, ends_lift]
  refine ⟨fun c hc => ?_, fun _ hf => by cases hf⟩
  obtain rfl := Except.ok.inj hc
  exact ⟨trivial, ⟨hs.caches.suffixes, hcache⟩, hs.outage⟩

end Registry

namespace Resolver

variable {foreign : Fault → Prop} {r : Resolver} {req : Request} {n widest : Int}
  {name lower : Text}
variable {suffix : Quantity} {k : Nat}

/-! ### Suffixes that have fitted -/

theorem isShort_zero (widest : Int) : Quantity.IsShort widest 0 :=
  ⟨0, rfl, Nat.pow_pos (by decide)⟩

theorem isCount_of_isShort (h : Quantity.IsShort widest suffix) : suffix.IsCount := by
  obtain ⟨k, rfl, -⟩ := h
  exact ⟨k, rfl⟩

theorem isShort_whole_iff :
    Quantity.IsShort widest (.whole k) ↔ k < Nat.pow 10 (widest.toNat - 1) := by
  constructor
  · rintro ⟨j, hj, hbound⟩
    obtain rfl := Int.ofNat.inj (Quantity.whole.inj hj)
    exact hbound
  · exact fun hbound => ⟨k, rfl, hbound⟩

/-- The suffix that comes behind a short one. -/
theorem next_of_isShort (h : Quantity.IsShort widest suffix) :
    ∃ k : Nat, suffix.next = .whole k ∧ k ≤ Nat.pow 10 (widest.toNat - 1) := by
  obtain ⟨k, rfl, hk⟩ := h
  exact ⟨k + 1, rfl, hk⟩

/-- The suffix of a candidate that keeps the limit is short. -/
theorem isShort_of_fits (hn : n ≤ widest)
    (hfits : ((name ++ suffixTail (.whole k)).graphemeLength : Int) ≤ n) :
    Quantity.IsShort widest (.whole k) := by
  have hlength := Text.length_le_graphemeLength_append (Trial.narrow_tail k) name
  have hroom : (suffixTail (.whole k)).length = _ := Trial.room_eq k
  have hpos := Nat.length_toDigits_pos (b := 10) (n := k)
  exact isShort_whole_iff.2 ((Nat.length_toDigits_le_iff (by decide) (by omega)).1 (by omega))

/-- So is one that leaves room for a character of a base. -/
theorem isShort_of_le_maxSuffix (hn : n ≤ widest) (hk : k ≤ maxSuffix n.toNat) :
    Quantity.IsShort widest (.whole k) := by
  have hle : Nat.pow 10 (n.toNat - 2) ≤ Nat.pow 10 (widest.toNat - 1) :=
    Nat.pow_le_pow_right (by decide) (by omega)
  have hpos : 0 < Nat.pow 10 (n.toNat - 2) := Nat.pow_pos (by decide)
  unfold maxSuffix at hk
  exact isShort_whole_iff.2 (by omega)

/-- Behind a short suffix comes one with too many digits only if the limit is longer than a numeral
may be. -/
theorem limit_of_not_writable (hk : k ≤ Nat.pow 10 (widest.toNat - 1))
    (h : ¬ isWritable (.whole k) = true) : maxDigits < widest.toNat := by
  have hbound : digitBound ≤ k := Nat.le_of_not_lt (mt isWritable_iff_lt.2 h)
  have hdigits : 0 < maxDigits := by decide
  unfold digitBound at hbound
  generalize maxDigits = m at hdigits hbound ⊢
  have hle : m ≤ widest.toNat - 1 :=
    (Nat.pow_le_pow_iff_right (by decide)).1 (Nat.le_trans hbound hk)
  omega

/-- In sound sessions the task ends with a result as is said or with an excused fault, and the
session is sound again. -/
abbrev Behaves {α : Type} (foreign : Fault → Prop) (widest : Int) (t : Task α)
    (ok : α → Prop := fun _ => True) : Prop :=
  Keeps (Session.Sound foreign (Quantity.IsShort widest)) t ok (Fault.Excused widest foreign)

/-! ### The linear search -/

theorem isAvailable_keeps (r : Resolver) (lower : Text) (allow : Bool) :
    Behaves foreign widest (r.isAvailable lower allow) := by
  unfold isAvailable
  split
  · exact .pure trivial
  · exact (Registry.isUsed_keeps lower).then fun _ => .pure trivial

theorem tryClaim_keeps (r : Resolver) (req : Request) (name lower : Text) :
    Behaves foreign widest (r.tryClaim req name lower) := by
  refine (isAvailable_keeps r lower req.allowReserved).then fun available => ?_
  split
  · exact Registry.claim_keeps req.kind lower (some name)
  · exact .pure trivial

theorem searchFrom_keeps (hlimit : req.limit = .whole n) (hn : n ≤ widest) (uncut : Text)
    {budget used : Nat} {lastTried : Option (Text × Quantity)}
    (hsuffix : ∃ k : Nat, suffix = .whole k ∧ k ≤ Nat.pow 10 (widest.toNat - 1))
    (hlast : ∀ last ∈ lastTried, last.2.IsShort widest) :
    Behaves foreign widest (r.searchFrom req uncut budget name lower suffix used lastTried) := by
  induction budget generalizing name lower suffix used lastTried with
  | zero =>
    cases lastTried with
    | none => exact .pure trivial
    | some last =>
      exact (Task.recordSuffix_keeps last.1 (hlast last rfl)).then fun _ => .pure trivial
  | succ budget ih =>
    obtain ⟨k, rfl, hk⟩ := hsuffix
    by_cases hwritable : isWritable (.whole k) = true
    swap
    · rw [searchFrom_of_not_writable hwritable]
      exact .throw (.unwritable (limit_of_not_writable hk hwritable))
    rw [searchFrom_of_writable hwritable, hlimit]
    dsimp only
    split
    · -- both lengths are whole, so the cut is one at a whole number
      rw [excessOf, lengthOf, lengthOf, Quantity.sub_whole, Quantity.sub_whole, Limit.cut_whole]
      refine Keeps.bind (p := fun _ => True) (.lift (fun _ _ => trivial) fun _ hf => by cases hf)
        fun cut _ => ?_
      split
      · exact .pure trivial
      · exact (Task.lastSuffix_keeps _ (isShort_zero widest)).bind fun last hlast' =>
          ih (next_of_isShort hlast') hlast
    · -- the candidate keeps the limit, so its suffix may be recorded
      rename_i hroom
      have hfits : ((name ++ suffixTail (.whole k)).graphemeLength : Int) ≤ n := by
        rw [excessOf, lengthOf, Quantity.sub_whole, show (0 : Quantity) = .whole 0 from rfl,
          Quantity.lt_whole, decide_eq_true_eq] at hroom
        omega
      have hshort := isShort_of_fits hn hfits
      refine (tryClaim_keeps r req _ _).then fun won => ?_
      split
      · have hrecord : ∀ found : Option Found × Nat,
            Behaves foreign widest (do Task.recordSuffix lower (.whole (k : Int)); return found) :=
          fun _ => (Task.recordSuffix_keeps lower hshort).then fun _ => .pure trivial
        split
        · exact (Task.recordCut_keeps _ _ _).then fun _ => hrecord _
        · exact hrecord _
      · refine ih (next_of_isShort hshort) fun last h => ?_
        obtain rfl := Option.some.inj h
        exact hshort

theorem searchLinear_keeps (r : Resolver) (hlimit : req.limit = .whole n) (hn : n ≤ widest)
    (name : Text) : Behaves foreign widest (r.searchLinear req name) := by
  refine (Task.cutLength?_keeps _ _).then fun length? => ?_
  refine (Task.lastSuffix_keeps _ (isShort_zero widest)).bind fun last hlast => ?_
  exact searchFrom_keeps hlimit hn _ (next_of_isShort hlast) fun _ h => by cases h

/-! ### The search without an end -/

/-- Only a suffix with too many digits cannot be asked for. -/
theorem suffixAvailable_keeps (r : Resolver) (hlimit : req.limit = .whole n)
    (hk : Quantity.IsShort widest (.whole k)) (name : Text) :
    Behaves foreign widest (r.suffixAvailable req name (.whole k)) := by
  rw [suffixAvailable, hlimit]
  by_cases hlt : k < digitBound
  · rw [suffixed_whole hlt]
    refine Keeps.bind (p := fun _ => True) (.lift (fun _ _ => trivial) fun _ hf => by cases hf)
      fun found _ => ?_
    cases found with
    | none => exact .pure trivial
    | some candidate => exact isAvailable_keeps r _ _
  · have hunwritable := mt isWritable_iff_lt.1 hlt
    rw [suffixed_of_not_writable hunwritable]
    refine Keeps.bind (p := fun _ => False) (.lift (fun _ h => by cases h) fun f hf => ?_)
      fun _ h => h.elim
    obtain rfl := Except.error.inj hf
    exact .unwritable (limit_of_not_writable (isShort_whole_iff.1 hk).le hunwritable)

/-- Doubling and bisecting stay among the suffixes that leave room for a base. -/
theorem offerAbove_keeps (r : Resolver) (hlimit : req.limit = .whole n) (hn : n ≤ widest)
    (name : Text) (lower attempts : Nat) :
    Behaves foreign widest (r.offerAbove req name (maxSuffix n.toNat) lower attempts)
      (fun p => ∀ k ∈ p.1, Quantity.IsShort widest (.whole k)) := by
  have htells : r.Tells req name (Session.Sound foreign (Quantity.IsShort widest))
      (fun _ => True) (fun _ => True)
      (fun f s' => f.Excused widest foreign ∧ s'.Sound foreign (Quantity.IsShort widest))
      (min (lower + 1) (maxSuffix n.toNat)) (maxSuffix n.toNat) := by
    intro s k hs _ hk
    refine (suffixAvailable_keeps r hlimit (isShort_of_le_maxSuffix hn hk) name s hs).mono
      (fun b s' h => ⟨h.2, ?_⟩) fun _ _ h => h
    split <;> trivial
  refine fun s hs => (offerAbove_tells htells hs attempts).mono (fun p s' h => ⟨?_, h.1⟩)
    fun _ _ h => h
  intro k hk
  have hlowest := h.2
  rw [hk] at hlowest
  exact isShort_of_le_maxSuffix hn hlowest.le_top

theorem claimOr_keeps (hlimit : req.limit = .whole n) (hk : Quantity.IsShort widest (.whole k))
    (name : Text) (attempts : Nat) {more : Task (Option Found × Nat)}
    (hmore : Behaves foreign widest more) :
    Behaves foreign widest (claimOr req name (.whole k) attempts more) := by
  have hclaim : Behaves foreign widest (claimSuffixed req name (.whole k)) := by
    refine Keeps.bind (p := fun _ => True) (.lift (fun _ _ => trivial) fun f hf => ?_)
      fun base _ => (Registry.claim_keeps _ _ _).then fun won => ?_
    · by_cases hwritable : isWritable (.whole k) = true
      · rw [baseFor_of_writable hwritable, hlimit, Limit.minus_whole, Limit.cut_whole] at hf
        cases hf
      · rw [baseFor_of_not_writable hwritable] at hf
        obtain rfl := Except.error.inj hf
        exact .unwritable (limit_of_not_writable (isShort_whole_iff.1 hk).le hwritable)
    · split
      · exact (Task.recordSuffix_keeps _ hk).then fun _ => .pure trivial
      · exact .pure trivial
  refine hclaim.then fun found => ?_
  cases found with
  | some f => exact .pure trivial
  | none => exact hmore

theorem searchAbove_keeps (r : Resolver) (hlimit : req.limit = .whole n) (hn : n ≤ widest)
    (name : Text) (losses lower attempts : Nat) :
    Behaves foreign widest (r.searchAbove req name (maxSuffix n.toNat) losses lower attempts) := by
  rw [searchAbove]
  refine (offerAbove_keeps r hlimit hn name _ _).bind fun p hp => ?_
  obtain ⟨_ | k, attempts'⟩ := p
  · exact .pure trivial
  · refine claimOr_keeps hlimit (hp k rfl) name _ ?_
    cases losses with
    | zero => exact .pure trivial
    | succ losses => exact searchAbove_keeps r hlimit hn name losses _ _

theorem searchDoubling_keeps (r : Resolver) (hlimit : req.limit = .whole n) (hn : n ≤ widest)
    (name : Text) : Behaves foreign widest (r.searchDoubling req name) := by
  rw [searchDoubling, hlimit, largestSuffix_whole]
  refine Keeps.bind (p := (· = .whole (maxSuffix n.toNat)))
    (.lift (fun top htop => (Except.ok.inj htop).symm) fun _ hf => by cases hf) fun top htop => ?_
  subst htop
  refine (Task.lastSuffix_keeps _ (isShort_zero widest)).bind fun last hlast => ?_
  obtain ⟨k, rfl⟩ := isCount_of_isShort hlast
  exact .get fun s hs => searchAbove_keeps r hlimit hn name _ _ _ s hs

/-! ### Resolutions -/

theorem note_keeps (r : Resolver) (level : Level) (message : String) (context : Fields) :
    Behaves foreign widest (r.note level message context) :=
  Task.note_keeps _

theorem fallbackFor_keeps (r : Resolver) (hlimit : req.limit = .whole n) :
    Behaves foreign widest (r.fallbackFor req) :=
  fun _ hs => (fallbackFor_text hlimit).mono (fun _ _ h => ⟨trivial, hs.rests h.2⟩)
    fun _ _ h => h.elim

theorem finish_keeps (r : Resolver) (req : Request) (name lower : Text) (suffix : Option Quantity)
    (usedFallback : Bool) (attempts : Nat) :
    Behaves foreign widest (r.finish req name lower suffix usedFallback attempts) :=
  (note_keeps r _ _ _).then fun _ => .pure trivial

theorem resolveByDoubling_keeps (r : Resolver) (hlimit : req.limit = .whole n) (hn : n ≤ widest)
    (fallback : Text) (attempts : Nat) :
    Behaves foreign widest (r.resolveByDoubling req fallback attempts) := by
  refine (note_keeps r _ _ _).then fun _ =>
    (searchDoubling_keeps r hlimit hn fallback).then fun p => ?_
  obtain ⟨_ | f, more⟩ := p
  · exact (note_keeps r _ _ _).then fun _ => .throw (.own rfl)
  · exact finish_keeps r req _ _ _ _ _

theorem resolveBySuffix_keeps (r : Resolver) (hlimit : req.limit = .whole n) (hn : n ≤ widest)
    (name fallback : Text) (usedFallback : Bool) :
    Behaves foreign widest (r.resolveBySuffix req name fallback usedFallback) := by
  refine (searchLinear_keeps r hlimit hn name).then fun p => ?_
  obtain ⟨_ | f, attempts⟩ := p
  · dsimp only
    split
    · exact resolveByDoubling_keeps r hlimit hn fallback _
    · refine (note_keeps r _ _ _).then fun _ =>
        (searchLinear_keeps r hlimit hn fallback).then fun p => ?_
      obtain ⟨_ | f, more⟩ := p
      · exact resolveByDoubling_keeps r hlimit hn fallback _
      · exact finish_keeps r req _ _ _ _ _
  · exact finish_keeps r req _ _ _ _ _

/-- Under a whole limit a resolution in a sound session ends with a name or with an excused fault,
and leaves a sound session behind. -/
theorem resolve_keeps (r : Resolver) (hlimit : req.limit = .whole n) (hn : n ≤ widest) :
    Behaves foreign widest (r.resolve req) := by
  refine (fallbackFor_keeps r hlimit).then fun fallback => ?_
  rw [cleanName_text hlimit]
  refine Keeps.bind (p := fun _ => True) (.lift (fun _ _ => trivial) fun _ hf => by cases hf)
    fun clean _ => ?_
  dsimp only
  generalize (if clean.isEmpty then fallback else clean) = name
  generalize clean.isEmpty = usedFallback
  refine (tryClaim_keeps r req _ _).then fun won => ?_
  split
  · exact finish_keeps r req _ _ _ _ _
  · split
    · exact resolveBySuffix_keeps r hlimit hn _ _ _
    · exact resolveBySuffix_keeps r hlimit hn _ _ _

/-! ### Resolvers that work -/

variable {settings : ResolverSettings} {w : Worker} {s : Session} {suffixes truncations : Int}

/-- The sessions in which a resolver works that began with the given caches and has been asked under
whole limits up to the given one. -/
inductive WorksWithin (r : Resolver) (w : Worker) (widest : Int) : Session → Prop
  | start (shared : Shared) (contention : Contention) :
      WorksWithin r w widest ⟨shared, { w with contention }⟩
  | request {s : Session} {req : Request} {n : Int} (shared : Shared) (contention : Contention) :
      WorksWithin r w widest s → req.limit = .whole n → n ≤ widest →
        WorksWithin r w widest ⟨shared, { (left (r.resolve req) s).worker with contention }⟩

theorem WorksWithin.mono {wider : Int} (h : r.WorksWithin w widest s) (hle : widest ≤ wider) :
    r.WorksWithin w wider s := by
  induction h with
  | start shared contention => exact .start shared contention
  | request shared contention _ hlimit hn ih =>
    exact .request shared contention ih hlimit (Int.le_trans hn hle)

/-- Wherever a resolver works, the limits of its requests have had a bound. -/
theorem Works.exists_within (h : r.Works w s) : ∃ widest, r.WorksWithin w widest s := by
  induction h with
  | start shared contention => exact ⟨0, .start shared contention⟩
  | request shared contention _ hwhole ih =>
    obtain ⟨widest, hworks⟩ := ih
    obtain ⟨n, hlimit⟩ := Limit.eq_whole hwhole
    exact ⟨max widest n, .request shared contention (hworks.mono (Int.le_max_left widest n)) hlimit
      (Int.le_max_right widest n)⟩

/-- Caches for any numbers of entries are sound at the beginning, and however many requests the
resolver has answered. -/
theorem WorksWithin.sound (h : r.WorksWithin w widest s) (hbuild : build settings = .ok (r, w))
    (hsuffixes : settings.suffixCacheSize = .int suffixes)
    (htruncations : settings.truncationCacheSize = .int truncations) :
    s.worker.Sound (Quantity.IsShort widest) := by
  have hgives := build_gives hbuild
  induction h with
  | start shared contention =>
    exact ⟨Memo.holds_ofCapacity (hsuffixes ▸ hgives.suffixes),
      Memo.holds_ofCapacity (htruncations ▸ hgives.truncations)⟩
  | @request s req n shared contention _ hlimit hn ih =>
    -- whatever a store fails with, the caches do not suffer
    have hsound : s.Sound (fun _ => True) (Quantity.IsShort widest) :=
      ⟨ih, fun _ _ _ _ => Or.inr trivial⟩
    have hleft : (left (r.resolve req) s).Sound (fun _ => True) (Quantity.IsShort widest) :=
      Ends.left (((resolve_keeps r hlimit hn) s hsound).mono (fun _ _ h => h.2) fun _ _ h => h.2)
    exact ⟨hleft.caches.suffixes, hleft.caches.truncations⟩

end Resolver

end Namesake
