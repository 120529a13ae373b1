import Mathlib.Data.List.Nodup
import Mathlib.Data.List.Perm.Basic
import Mathlib.Data.List.Perm.Subperm
import Pageviews.Proofs.Store.Dialogue

/-! Where the batches of a store are. Main statement: after any calls each batch that was opened is
open with the rows that it took, or it was dropped or sent. -/
namespace Pageviews.Store

variable {α : Type}

def Task.isSend : Task α → Bool
  | send _ => true
  | wait _ => false

def Outcome.isSent : Outcome α → Bool
  | sent => true
  | _ => false

def Outcome.isRefused : Outcome α → Bool
  | refused _ => true
  | _ => false

namespace Exchange

def opened? : Exchange α → Option Nat
  | ⟨.openBatch, .opened batch⟩ => some batch
  | _ => none

def appended? (batch : Nat) : Exchange α → Option α
  | ⟨.append target row, .done⟩ => if target = batch then some row else none
  | _ => none

def dropped? : Exchange α → Option Nat
  | ⟨.drop batch, _⟩ => some batch
  | _ => none

/-- The task that sends a batch, and the batch. -/
def send? : Exchange α → Option (Nat × Nat)
  | ⟨.send batch, .started task⟩ => some (task, batch)
  | _ => none

def stalled? : Exchange α → Option Bool
  | ⟨.stall, _⟩ => some true
  | ⟨.resume, _⟩ => some false
  | _ => none

def failure? : Exchange α → Option FailurePoint
  | ⟨.failOn point, _⟩ => some point
  | _ => none

end Exchange

section

variable (said : List (Exchange α))

def openedIn : List Nat := said.filterMap Exchange.opened?

def rowsOf (batch : Nat) : List α := said.filterMap (Exchange.appended? batch)

def droppedIn : List Nat := said.filterMap Exchange.dropped?

def sendsIn : List (Nat × Nat) := said.filterMap Exchange.send?

/-- The batches that tasks of a kind send, in the order of the tasks. -/
def batchesOf {β : Type} (kind : β → Bool) (tasks : List (Nat × β)) : List Nat :=
  tasks.filterMap fun task => if kind task.2 then (sendsIn said).lookup task.1 else none

/-- Whether the store is to stall, as it was told last. -/
def stalledIn : Bool := (said.filterMap Exchange.stalled?).getLast?.getD false

def failureIn : Option FailurePoint := (said.filterMap Exchange.failure?).getLast?

end

def Session.openBatches (s : Session α) : List Nat :=
  (List.range s.batches.length).filter fun batch => (s.batch? batch).isSome

/-- Each batch took its rows, and is open, or was dropped or sent. -/
structure Filed (said : List (Exchange α)) (s : Session α) : Prop where
  opened : openedIn said = List.range s.store.opened
  slots : s.batches.length = s.store.opened
  rows : ∀ batch rows, s.batch? batch = some rows → rowsOf said batch = rows
  fresh : ∀ batch, s.batches.length ≤ batch → rowsOf said batch = []
  places : (s.openBatches ++ (droppedIn said ++ (sendsIn said).map Prod.snd)).Perm
    (List.range s.store.opened)

section

variable {said : List (Exchange α)} {s t : Session α} {e : Exchange α} {call : Call α}
  {reply : Reply α}

theorem openedIn_snoc : openedIn (said ++ [e]) = openedIn said ++ e.opened?.toList := by
  cases h : e.opened? <;> simp [openedIn, List.filterMap_append, h]

theorem rowsOf_snoc (batch : Nat) :
    rowsOf (said ++ [e]) batch = rowsOf said batch ++ (e.appended? batch).toList := by
  cases h : e.appended? batch <;> simp [rowsOf, List.filterMap_append, h]

theorem droppedIn_snoc : droppedIn (said ++ [e]) = droppedIn said ++ e.dropped?.toList := by
  cases h : e.dropped? <;> simp [droppedIn, List.filterMap_append, h]

theorem sendsIn_snoc : sendsIn (said ++ [e]) = sendsIn said ++ e.send?.toList := by
  cases h : e.send? <;> simp [sendsIn, List.filterMap_append, h]

theorem stalledIn_snoc : stalledIn (said ++ [e]) = e.stalled?.getD (stalledIn said) := by
  cases h : e.stalled? <;> simp [stalledIn, List.filterMap_append, h]

theorem failureIn_snoc : failureIn (said ++ [e]) = e.failure?.or (failureIn said) := by
  cases h : e.failure? <;> simp [failureIn, List.filterMap_append, h]

theorem batchesOf_congr {more : List (Exchange α)} {β : Type} {kind : β → Bool}
    {tasks : List (Nat × β)}
    (h : ∀ task ∈ tasks, (sendsIn more).lookup task.1 = (sendsIn said).lookup task.1) :
    batchesOf more kind tasks = batchesOf said kind tasks := by
  refine List.filterMap_congr fun task htask => ?_
  rw [h task htask]

theorem batchesOf_append {β : Type} {kind : β → Bool} (tasks more : List (Nat × β)) :
    batchesOf said kind (tasks ++ more) = batchesOf said kind tasks ++ batchesOf said kind more :=
  List.filterMap_append

theorem rowsOf_of_none (h : ∀ batch, e.appended? batch = none) :
    rowsOf (said ++ [e]) = rowsOf said := by
  funext batch
  rw [rowsOf_snoc, h batch, Option.toList_none, List.append_nil]

theorem droppedIn_of_none (h : e.dropped? = none) : droppedIn (said ++ [e]) = droppedIn said := by
  rw [droppedIn_snoc, h, Option.toList_none, List.append_nil]

theorem sendsIn_of_none (h : e.send? = none) : sendsIn (said ++ [e]) = sendsIn said := by
  rw [sendsIn_snoc, h, Option.toList_none, List.append_nil]

theorem batchesOf_of_none {β : Type} {kind : β → Bool} {tasks : List (Nat × β)}
    (h : e.send? = none) : batchesOf (said ++ [e]) kind tasks = batchesOf said kind tasks :=
  batchesOf_congr fun _ _ => by rw [sendsIn_of_none h]

theorem mem_sends_of_lookup {task batch : Nat} (h : (sendsIn said).lookup task = some batch) :
    batch ∈ (sendsIn said).map Prod.snd := by
  obtain ⟨before, after, heq, -⟩ := List.lookup_eq_some_iff.mp h
  rw [heq]
  simp

theorem mem_sends_of_mem {β : Type} {kind : β → Bool} {tasks : List (Nat × β)} {batch : Nat}
    (h : batch ∈ batchesOf said kind tasks) : batch ∈ (sendsIn said).map Prod.snd := by
  obtain ⟨task, -, htask⟩ := List.mem_filterMap.mp h
  rw [Option.ite_none_right_eq_some] at htask
  exact mem_sends_of_lookup htask.2

namespace Session

theorem mem_openBatches {batch : Nat} :
    batch ∈ s.openBatches ↔ ∃ rows, s.batch? batch = some rows := by
  rw [openBatches, List.mem_filter, List.mem_range, Option.isSome_iff_exists, and_iff_right_iff_imp]
  rintro ⟨rows, hb⟩
  by_contra hlt
  rw [batch?, List.getElem?_eq_none (Nat.not_lt.mp hlt)] at hb
  cases hb

theorem batch_lt {batch : Nat} {rows : List α} (hb : s.batch? batch = some rows) :
    batch < s.batches.length := by
  have hmem := mem_openBatches.mpr ⟨rows, hb⟩
  exact List.mem_range.mp (List.mem_filter.mp hmem).1

theorem nodup_openBatches : s.openBatches.Nodup := List.nodup_range.filter _

theorem batch?_set {target : Nat} {value : Option (List α)} (hlt : target < s.batches.length)
    (ht : t.batches = s.batches.set target value) (batch : Nat) :
    t.batch? batch = if target = batch then value else s.batch? batch := by
  rw [batch?, ht, List.getElem?_set]
  split
  · simp
  · rfl

/-- A batch that took a row is open still. -/
theorem openBatches_set_some {target : Nat} {rows more : List α}
    (hb : s.batch? target = some rows) (ht : t.batches = s.batches.set target (some more)) :
    t.openBatches = s.openBatches := by
  have hlength : t.batches.length = s.batches.length := by rw [ht, List.length_set]
  rw [openBatches, openBatches, hlength]
  refine List.filter_congr fun batch _ => ?_
  rw [batch?_set (batch_lt hb) ht]
  split
  · rename_i heq
    rw [← heq, hb]
    rfl
  · rfl

/-- A batch that was closed is the only one that is not open any more. -/
theorem openBatches_set_none {target : Nat} {rows : List α} (hb : s.batch? target = some rows)
    (ht : t.batches = s.batches.set target none) :
    s.openBatches.Perm (target :: t.openBatches) := by
  have hlength : t.batches.length = s.batches.length := by rw [ht, List.length_set]
  have herase : t.openBatches = s.openBatches.erase target := by
    rw [nodup_openBatches.erase_eq_filter, openBatches, openBatches, hlength, List.filter_filter]
    refine List.filter_congr fun batch _ => ?_
    rw [batch?_set (batch_lt hb) ht]
    by_cases heq : target = batch
    · simp [heq]
    · simp [heq, Ne.symm heq]
  rw [herase]
  exact List.perm_cons_erase (mem_openBatches.mpr ⟨rows, hb⟩)

theorem batch?_snoc (ht : t.batches = s.batches ++ [some []]) (batch : Nat) :
    t.batch? batch = if batch = s.batches.length then some [] else s.batch? batch := by
  rw [batch?, ht]
  split
  · rename_i heq
    simp [heq]
  · rename_i hne
    rcases Nat.lt_or_gt_of_ne hne with hlt | hgt
    · rw [List.getElem?_append_left hlt, batch?]
    · have hnone : (s.batches ++ [some []])[batch]? = none :=
        List.getElem?_eq_none (by rw [List.length_append]; exact hgt)
      rw [hnone, batch?, List.getElem?_eq_none (Nat.le_of_lt hgt)]

theorem openBatches_snoc (ht : t.batches = s.batches ++ [some []]) :
    t.openBatches = s.openBatches ++ [s.batches.length] := by
  have hlength : t.batches.length = s.batches.length + 1 := by rw [ht]; simp
  rw [openBatches, hlength, List.range_succ, List.filter_append]
  congr 1
  · refine List.filter_congr fun batch hmem => ?_
    rw [batch?_snoc ht, if_neg (Nat.ne_of_lt (List.mem_range.mp hmem))]
  · simp [batch?_snoc ht]

end Session

/-- One batch goes from a place among the batches to the end. -/
theorem perm_move (first : List Nat) (batch : Nat) (rest : List Nat) :
    (first ++ [batch] ++ rest).Perm (first ++ rest ++ [batch]) := by
  rw [List.append_assoc, List.append_assoc]
  exact List.perm_append_comm.append_left first

namespace Filed

theorem notMem_sends (h : Filed said s) {batch : Nat} {rows : List α}
    (hb : s.batch? batch = some rows) : batch ∉ (sendsIn said).map Prod.snd := by
  have hnodup := h.places.nodup_iff.mpr List.nodup_range
  have hdisjoint := (List.nodup_append.mp hnodup).2.2
  intro hmem
  exact hdisjoint batch (Session.mem_openBatches.mpr ⟨rows, hb⟩) batch
    (List.mem_append_right _ hmem) rfl

theorem of_eq (h : Filed said s) (hbatches : t.batches = s.batches)
    (hopened : t.store.opened = s.store.opened) : Filed said t := by
  have hb : t.batch? = s.batch? := by
    funext batch
    rw [Session.batch?, hbatches, Session.batch?]
  exact {
    opened := by rw [hopened]; exact h.opened
    slots := by rw [hbatches, hopened]; exact h.slots
    rows := by rw [hb]; exact h.rows
    fresh := by rw [hbatches]; exact h.fresh
    places := by rw [Session.openBatches, hb, hbatches, hopened]; exact h.places }

theorem silent (h : Filed said s) (ho : e.opened? = none) (ha : ∀ batch, e.appended? batch = none)
    (hd : e.dropped? = none) (hs : e.send? = none) : Filed (said ++ [e]) s where
  opened := by rw [openedIn_snoc, ho, h.opened]; exact List.append_nil _
  slots := h.slots
  rows := by rw [rowsOf_of_none ha]; exact h.rows
  fresh := by rw [rowsOf_of_none ha]; exact h.fresh
  places := by rw [droppedIn_of_none hd, sendsIn_of_none hs]; exact h.places

theorem openBatch (h : Filed said s) :
    Filed (said ++ [⟨.openBatch, .opened s.batches.length⟩])
      { s with store := s.store.countOpened, batches := s.batches ++ [some []] } where
  opened := by
    rw [openedIn_snoc, h.opened]
    show _ ++ [s.batches.length] = _
    rw [h.slots]
    exact List.range_succ.symm
  slots := by simp [h.slots, Memory.countOpened]
  rows := by
    intro batch rows hb
    rw [Session.batch?_snoc rfl] at hb
    rw [rowsOf_of_none fun _ => rfl]
    split at hb
    · rename_i heq
      rw [h.fresh batch (Nat.le_of_eq heq.symm)]
      exact Option.some.inj hb
    · exact h.rows batch rows hb
  fresh := by
    intro batch hle
    rw [List.length_append] at hle
    rw [rowsOf_of_none fun _ => rfl]
    exact h.fresh batch (Nat.le_of_succ_le hle)
  places := by
    rw [Session.openBatches_snoc rfl, droppedIn_of_none rfl, sendsIn_of_none rfl, h.slots]
    calc s.openBatches ++ [s.store.opened] ++ (droppedIn said ++ (sendsIn said).map Prod.snd)
        |>.Perm (s.openBatches ++ (droppedIn said ++ (sendsIn said).map Prod.snd) ++
          [s.store.opened]) := perm_move _ _ _
      _ |>.Perm (List.range s.store.opened ++ [s.store.opened]) := h.places.append_right _
      _ |>.Perm (List.range (s.store.opened + 1)) := .of_eq List.range_succ.symm

theorem append (h : Filed said s) {batch : Nat} {rows : List α}
    (hb : s.batch? batch = some rows) (row : α) (now : Nat) :
    Filed (said ++ [⟨.append batch row, .done⟩])
      { s with now, batches := s.batches.set batch (some (rows ++ [row])) } where
  opened := by
    rw [openedIn_snoc, h.opened]
    exact List.append_nil _
  slots := by simpa using h.slots
  rows := by
    intro other more hother
    rw [Session.batch?_set (Session.batch_lt hb) rfl] at hother
    rw [rowsOf_snoc, Exchange.appended?]
    split at hother
    · rename_i heq
      subst heq
      rw [h.rows batch rows hb]
      simpa using hother
    · rename_i hne
      rw [h.rows other more hother]
      simp [hne]
  fresh := by
    intro other hle
    rw [List.length_set] at hle
    have hne : batch ≠ other := by
      have hlt := Session.batch_lt hb
      omega
    rw [rowsOf_snoc, h.fresh other hle, Exchange.appended?, if_neg hne]
    rfl
  places := by
    rw [Session.openBatches_set_some hb rfl, droppedIn_of_none rfl, sendsIn_of_none rfl]
    exact h.places

/-- A batch that is closed keeps the rows that it took. -/
theorem close (h : Filed said s) {batch : Nat} {rows : List α} (hb : s.batch? batch = some rows)
    (ho : e.opened? = none) (ha : ∀ other, e.appended? other = none)
    (hclosed : (droppedIn (said ++ [e]) ++ (sendsIn (said ++ [e])).map Prod.snd).Perm
      (batch :: (droppedIn said ++ (sendsIn said).map Prod.snd)))
    (ht : t.batches = s.batches.set batch none) (hopened : t.store.opened = s.store.opened) :
    Filed (said ++ [e]) t where
  opened := by rw [openedIn_snoc, ho, hopened, h.opened]; exact List.append_nil _
  slots := by rw [ht, List.length_set, hopened]; exact h.slots
  rows := by
    intro other more hother
    rw [Session.batch?_set (Session.batch_lt hb) ht] at hother
    rw [rowsOf_of_none ha]
    split at hother
    · cases hother
    · exact h.rows other more hother
  fresh := by rw [ht, List.length_set, rowsOf_of_none ha]; exact h.fresh
  places := by
    rw [hopened]
    calc t.openBatches ++ (droppedIn (said ++ [e]) ++ (sendsIn (said ++ [e])).map Prod.snd)
        |>.Perm (t.openBatches ++ (batch :: (droppedIn said ++ (sendsIn said).map Prod.snd))) :=
          hclosed.append_left _
      _ |>.Perm (batch :: t.openBatches ++ (droppedIn said ++ (sendsIn said).map Prod.snd)) :=
          List.perm_middle
      _ |>.Perm (s.openBatches ++ (droppedIn said ++ (sendsIn said).map Prod.snd)) :=
          (Session.openBatches_set_none hb ht).symm.append_right _
      _ |>.Perm (List.range s.store.opened) := h.places

theorem performed (h : Filed said s) (hp : s.Performed call reply t) :
    Filed (said ++ [⟨call, reply⟩]) t := by
  cases hp with
  | opened hf => exact h.openBatch
  | appended hb hf => exact h.append hb _ _
  | dropped hb =>
    refine h.close hb rfl (fun _ => rfl) ?_ rfl rfl
    rw [droppedIn_snoc, sendsIn_of_none rfl]
    exact (perm_move _ _ _).trans (List.perm_append_singleton _ _)
  | sending hb =>
    refine h.close hb rfl (fun _ => rfl) ?_ rfl rfl
    rw [droppedIn_of_none rfl, sendsIn_snoc, List.map_append, ← List.append_assoc]
    exact List.perm_append_singleton _ _
  | _ => exact (h.silent rfl (fun _ => rfl) rfl rfl).of_eq rfl rfl

end Filed

end

end Pageviews.Store
