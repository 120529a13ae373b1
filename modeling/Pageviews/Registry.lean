import Pageviews.Domain.Basic
import Pageviews.Text.Blank

/-! The registry of the domains that may report events. -/
namespace Pageviews

/-- The registered domains, each once. -/
structure Registry where
  domains : List Domain
  nodup : domains.Nodup

namespace Registry

def empty : Registry := ⟨[], List.nodup_nil⟩

def insert (r : Registry) (d : Domain) : Registry :=
  if h : d ∈ r.domains then r else ⟨d :: r.domains, List.nodup_cons.2 ⟨h, r.nodup⟩⟩

def ofList (domains : List Domain) : Registry := domains.foldl insert empty

def size (r : Registry) : Nat := r.domains.length

def isEmpty (r : Registry) : Bool := r.size = 0

def isRegistered (r : Registry) (d : Domain) : Bool := r.domains.contains d

theorem mem_insert {r : Registry} {d e : Domain} :
    e ∈ (r.insert d).domains ↔ e ∈ r.domains ∨ e = d := by
  unfold insert
  split
  · next h =>
    constructor
    · exact .inl
    · rintro (he | rfl)
      · exact he
      · exact h
  · rw [List.mem_cons, or_comm]

theorem mem_foldl_insert {r : Registry} {domains : List Domain} {e : Domain} :
    e ∈ (domains.foldl insert r).domains ↔ e ∈ r.domains ∨ e ∈ domains := by
  induction domains generalizing r with
  | nil => simp
  | cons d domains ih => rw [List.foldl_cons, ih, mem_insert, List.mem_cons, or_assoc]

/-- Just the listed domains are registered. -/
theorem isRegistered_ofList {domains : List Domain} {d : Domain} :
    (ofList domains).isRegistered d = true ↔ d ∈ domains := by
  rw [isRegistered, List.contains_iff_mem, ofList, mem_foldl_insert, empty]
  simp

/-- The entries of a comma separated list, without white space around them. -/
def entries (raw : String) : List String :=
  (Text.split ',' raw.toList).map fun entry => String.ofList (Text.trim entry)

/-- Read a comma separated list of domains; the first entry that is none is the error. -/
def parseList (raw : String) : Except InvalidDomain (List Domain) := (entries raw).mapM Domain.parse

/-- The domains of a list are those of its entries. -/
theorem mem_of_parseList {raw : String} {domains : List Domain} (h : parseList raw = .ok domains)
    {d : Domain} : d ∈ domains ↔ ∃ entry ∈ entries raw, Domain.parse entry = .ok d := by
  unfold parseList at h
  generalize entries raw = list at h ⊢
  induction list generalizing domains with
  | nil =>
    cases h
    simp
  | cons entry list ih =>
    rw [List.mapM_cons] at h
    cases hentry : Domain.parse entry with
    | error cause =>
      rw [hentry] at h
      cases h
    | ok e =>
      cases hlist : list.mapM Domain.parse with
      | error cause =>
        rw [hentry, hlist] at h
        cases h
      | ok rest =>
        rw [hentry, hlist] at h
        cases h
        simp [hentry, ih hlist, eq_comm]

end Registry
end Pageviews
