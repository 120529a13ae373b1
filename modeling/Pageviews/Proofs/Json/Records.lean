import Mathlib.Data.List.Nodup
import Pageviews.Json.RecordReader
import Pageviews.Proofs.Json.Strings

/-! Records in JSON text. Main statement: an object of strings is read back, whatever characters its
names and strings have. -/
namespace Pageviews.Json

variable {names : List (List Char)} {first : Bool} {found found' : Found}
  {text after rest : List Char}

theorem readMembers_of_end (h : nextMember first text = .ok (false, rest)) :
    readMembers names first found text = .ok (found, rest) := by
  rw [readMembers]
  split
  · next hn => rw [h] at hn; cases hn
  · next hn => rw [h] at hn; cases hn; rfl
  · next hn => rw [h] at hn; cases hn

theorem readMembers_of_member (hn : nextMember first text = .ok (true, after))
    (hm : readMember names found after = .ok (found', rest)) :
    readMembers names first found text = readMembers names false found' rest := by
  rw [readMembers]
  split
  · next hn' => rw [hn] at hn'; cases hn'
  · next hn' => rw [hn] at hn'; cases hn'
  · next hn' =>
    rw [hn] at hn'
    cases hn'
    split
    · next hm' => rw [hm] at hm'; cases hm'
    · next hm' => rw [hm] at hm'; cases hm'; rfl

abbrev Member := String × String

namespace Member

def read (m : Member) : List Char × List Char := (m.1.toList, m.2.toList)

/-- A member as it is written, from behind the quote that opens its name. -/
def written (m : Member) : List Char :=
  m.1.toList.flatMap writtenChar ++ '"' :: ':' :: (writeString m.2).toList

end Member

/-- The text of the members of an object; `first` says that none stands before them. -/
def writtenMembers (first : Bool) : List Member → List Char
  | [] => []
  | m :: members =>
    (if first then [] else [',']) ++ '"' :: m.written ++ writtenMembers false members

theorem intercalate_written (m : Member) (members : List Member) :
    [','].intercalate ((m :: members).map fun m => '"' :: m.written) =
      '"' :: m.written ++ writtenMembers false members := by
  induction members generalizing m with
  | nil => simp [writtenMembers]
  | cons next members ih =>
    have hrest := ih next
    rw [List.map_cons] at hrest
    rw [List.map_cons, List.map_cons, List.intercalate_cons_cons, hrest, writtenMembers]
    simp

theorem toList_writeObject (members : List Member) :
    (writeObject (members.map fun m => (m.1, writeString m.2))).toList =
      '\x7b' :: (writtenMembers true members ++ ['\x7d']) := by
  have htext (m : Member) :
      (writeString m.1 ++ ":" ++ writeString m.2).toList = '"' :: m.written := by
    simp [Member.written, writeString]
  have hmembers : [','].intercalate (members.map fun m => '"' :: m.written) =
      writtenMembers true members := by
    cases members with
    | nil => rfl
    | cons m members => exact intercalate_written m members
  simp only [writeObject, String.toList_append, String.toList_intercalate, List.map_map]
  rw [← hmembers, ← funext htext]
  rfl

/-- A member that is asked for, and has not been found before, is found. -/
theorem readMember_written {m : Member} (hname : m.1.toList ∈ names)
    (hnew : ∀ p ∈ found, p.1 ≠ m.1.toList) (rest : List Char) :
    readMember names found (m.written ++ rest) = .ok (m.read :: found, rest) := by
  have hlookup : found.lookup m.1.toList = none := by
    rw [List.lookup_eq_none_iff]
    intro p hp
    simpa using (hnew p hp).symm
  have hbody : stringBody (m.written ++ rest) =
      .ok (m.1.toList, ':' :: ((writeString m.2).toList ++ rest)) := by
    rw [Member.written, List.append_assoc]
    exact stringBody_flatMap _ _
  have hcolon (more : List Char) : colon (':' :: more) = .ok more := rfl
  simp [readMember, hbody, readMemberValue, hname, hlookup, hcolon, readString_writeString,
    Member.read, bind, Except.bind, pure, Except.pure]

/-- Members of different names are all found, the last one first. -/
theorem readMembers_writtenMembers {members : List Member}
    (hnames : ∀ m ∈ members, m.1.toList ∈ names) (hnodup : (members.map Prod.fst).Nodup)
    (hnew : ∀ m ∈ members, ∀ p ∈ found, p.1 ≠ m.1.toList) (first : Bool) :
    readMembers names first found (writtenMembers first members ++ '\x7d' :: rest) =
      .ok ((members.map Member.read).reverse ++ found, rest) := by
  induction members generalizing first found with
  | nil => cases first <;> exact readMembers_of_end rfl
  | cons m members ih =>
    rw [List.map_cons, List.nodup_cons] at hnodup
    have hnext (more : List Char) :
        nextMember first ((if first then [] else [',']) ++ '"' :: more) = .ok (true, more) := by
      cases first <;> rfl
    have hm := readMember_written (hnames m List.mem_cons_self) (hnew m List.mem_cons_self)
      (writtenMembers false members ++ '\x7d' :: rest)
    have hothers : ∀ n ∈ members, ∀ p ∈ m.read :: found, p.1 ≠ n.1.toList := by
      intro n hn p hp
      rcases List.mem_cons.mp hp with rfl | hp
      · intro heq
        exact hnodup.1 (List.mem_map.mpr ⟨n, hn, (String.toList_inj.mp heq).symm⟩)
      · exact hnew n (List.mem_cons_of_mem _ hn) p hp
    have hrest := ih (fun n hn => hnames n (List.mem_cons_of_mem _ hn)) hnodup.2 hothers false
    rw [writtenMembers, List.append_assoc, List.append_assoc, List.cons_append,
      readMembers_of_member (hnext _) hm, hrest, List.map_cons, List.reverse_cons,
      List.append_assoc, List.singleton_append]

/-- Each name leads to its string, in whatever order they were found. -/
theorem lookup_reverse {members : List Member} (hnodup : (members.map Prod.fst).Nodup) {m : Member}
    (hm : m ∈ members) :
    (members.map Member.read).reverse.lookup m.1.toList = some m.2.toList := by
  obtain ⟨before, after, rfl⟩ := List.append_of_mem hm
  rw [List.map_append, List.map_cons] at hnodup
  have hlater : ∀ n ∈ after, m.1 ≠ n.1 := by
    intro n hn heq
    have htail := (List.nodup_append.mp hnodup).2.1
    exact (List.nodup_cons.mp htail).1 (List.mem_map.mpr ⟨n, hn, heq.symm⟩)
  rw [List.lookup_eq_some_iff]
  refine ⟨(after.map Member.read).reverse, (before.map Member.read).reverse, ?_, ?_⟩
  · simp [Member.read]
  · intro p hp
    obtain ⟨n, hn, rfl⟩ := List.mem_map.mp (List.mem_reverse.mp hp)
    simpa [Member.read] using fun heq => hlater n hn (String.toList_inj.mp heq)

theorem mapM_lookup {members : List Member}
    (h : ∀ m ∈ members, found.lookup m.1.toList = some m.2.toList) :
    (members.map (·.1.toList)).mapM (found.lookup ·) = some (members.map (·.2.toList)) := by
  induction members with
  | nil => rfl
  | cons m members ih =>
    rw [List.forall_mem_cons] at h
    rw [List.map_cons, List.mapM_cons, h.1, ih h.2]
    rfl

/-- An object of strings is read back in the order of the names, and the reader stops behind it. -/
theorem readRecord_writeObject {members : List Member} (hnodup : (members.map Prod.fst).Nodup)
    (rest : List Char) :
    readRecord (members.map (·.1.toList))
        ((writeObject (members.map fun m => (m.1, writeString m.2))).toList ++ rest) =
      .ok (members.map (·.2.toList), rest) := by
  have hnames : ∀ m ∈ members, m.1.toList ∈ members.map (·.1.toList) :=
    fun m hm => List.mem_map_of_mem hm
  have hmembers : readMembers (members.map (·.1.toList)) true []
      (writtenMembers true members ++ '\x7d' :: rest) =
        .ok ((members.map Member.read).reverse ++ [], rest) :=
    readMembers_writtenMembers hnames hnodup (by simp) true
  have hvalues := mapM_lookup fun m hm => lookup_reverse hnodup (m := m) hm
  have hblanks (more : List Char) : skipBlanks ('\x7b' :: more) = '\x7b' :: more := rfl
  rw [toList_writeObject, List.cons_append, List.append_assoc, List.singleton_append, readRecord,
    hblanks]
  simp [hmembers, hvalues, bind, Except.bind, pure, Except.pure]

end Pageviews.Json
