import Mathlib.Data.List.Nodup

/-! # Items told by a log

A sender opens items one after the other, adds pieces of text to those that are open, and closes
them.  Each act is an entry of a log, with the item's position and id.  A reader of the log wants
to find, for every position, the item's whole story in order: it is added, then its pieces come,
then it is finished (`Cell.trace`); and the positions to be given out in order.

`Ledger` is a log with the cells that it tells, and carries the proof that it does.  What a sender
keeps is a map from references to items; `Ledger.Shows` says that the map is what the cells hold.
Each act on the map that a sender may take has a ledger with the entries it sends (`Shows.opening`,
`Shows.telling`, `Shows.closing`), so a sender that only takes such acts sends a consistent log. -/
namespace ItemLog
open Function List
variable {ρ : Type}

/-- What an entry tells of its item. -/
inductive Act where
  | added
  | told (text : String)
  | finishing
  | done
deriving DecidableEq, Repr

/-- An entry of the log. -/
structure Entry where
  index : Nat
  id : String
  act : Act
deriving DecidableEq, Repr

/-- The position that an entry gives out. -/
def Entry.added? (e : Entry) : Option Nat := if e.act = .added then some e.index else none

/-- An item: who it is for, its id, its pieces, and whether it is finished. -/
structure Cell (ρ : Type) where
  ref : ρ
  id : String
  pieces : List String
  closed : Bool
deriving DecidableEq, Repr

/-- The story of an item at position `i`. -/
def Cell.trace (c : Cell ρ) (i : Nat) : List Entry :=
  ⟨i, c.id, .added⟩ :: (c.pieces.map fun text => ⟨i, c.id, .told text⟩) ++
    if c.closed then [⟨i, c.id, .finishing⟩, ⟨i, c.id, .done⟩] else []

/-- A log and the cells it tells, position by position. -/
structure Ledger (ρ : Type) where
  cells : List (Cell ρ)
  log : List Entry
  nodup : (cells.map (·.ref)).Nodup
  traces : ∀ i, log.filter (fun e => e.index = i) = (cells[i]?.map (·.trace i)).getD []
  added : log.filterMap Entry.added? = range cells.length

namespace Ledger

/-- Nothing was told. -/
def empty : Ledger ρ := ⟨[], [], nodup_nil, fun _ => rfl, rfl⟩

/-- A new item at the next position. -/
def opening (l : Ledger ρ) (r : ρ) (id : String) (h : r ∉ l.cells.map (·.ref)) : Ledger ρ where
  cells := l.cells ++ [⟨r, id, [], false⟩]
  log := l.log ++ [⟨l.cells.length, id, .added⟩]
  nodup := by
    rw [map_append, nodup_append]
    refine ⟨l.nodup, nodup_singleton _, ?_⟩
    intro a ha b hb hab
    rw [map_singleton, mem_singleton] at hb
    rw [hab, hb] at ha
    exact h ha
  traces := by
    intro i
    rw [List.filter_append, l.traces]
    rcases Nat.lt_trichotomy i l.cells.length with hi | rfl | hi
    · have hne : l.cells.length ≠ i := by omega
      rw [List.getElem?_append_left hi, filter_cons_of_neg (by simpa using hne)]
      simp
    · simp [Cell.trace]
    · have hne : l.cells.length ≠ i := by omega
      rw [List.getElem?_eq_none (by omega),
        List.getElem?_eq_none (by rw [length_append, length_singleton]; omega),
        filter_cons_of_neg (by simpa using hne)]
      simp
  added := by
    rw [filterMap_append, l.added, length_append, length_singleton,
      range_succ]
    rfl

/-- A cell that keeps its reference keeps the references as they are. -/
theorem map_ref_set {cells : List (Cell ρ)} {i : Nat} {c c' : Cell ρ} (hc : cells[i]? = some c)
    (href : c'.ref = c.ref) : (cells.set i c').map (·.ref) = cells.map (·.ref) := by
  refine ext_getElem? fun j => ?_
  rw [getElem?_map, getElem?_set, getElem?_map]
  split
  · rename_i hij
    rw [← hij, hc, if_pos (List.getElem?_eq_some_iff.mp hc).1]
    exact congrArg some href
  · rfl

/-- More is told of the item at position `i`. -/
def change (l : Ledger ρ) (i : Nat) (c c' : Cell ρ) (es : List Entry) (hc : l.cells[i]? = some c)
    (href : c'.ref = c.ref) (hes : ∀ e ∈ es, e.index = i ∧ e.act ≠ .added)
    (htrace : c'.trace i = c.trace i ++ es) : Ledger ρ where
  cells := l.cells.set i c'
  log := l.log ++ es
  nodup := by
    rw [map_ref_set hc href]
    exact l.nodup
  traces := by
    intro j
    have hi : i < l.cells.length := (List.getElem?_eq_some_iff.mp hc).1
    rw [List.filter_append, l.traces]
    by_cases hj : i = j
    · subst hj
      have hself : es.filter (fun e => e.index = i) = es := by
        rw [filter_eq_self]
        exact fun e he => decide_eq_true (hes e he).1
      rw [List.getElem?_set_self hi, hc, hself]
      exact htrace.symm
    · have hnone : es.filter (fun e => e.index = j) = [] := by
        rw [filter_eq_nil_iff]
        intro e he hej
        exact hj ((hes e he).1.symm.trans (of_decide_eq_true hej))
      rw [List.getElem?_set_ne hj, hnone, append_nil]
  added := by
    have hnone : es.filterMap Entry.added? = [] := by
      rw [filterMap_eq_nil_iff]
      exact fun e he => if_neg (hes e he).2
    rw [filterMap_append, l.added, hnone, append_nil, length_set]

end Ledger

/-! ## What a sender keeps -/

/-- An item as its sender keeps it. -/
structure Item where
  index : Nat
  id : String
  text : String
  closed : Bool
deriving DecidableEq, Repr

/-- The item of a cell at position `i`. -/
def Cell.item (c : Cell ρ) (i : Nat) : Item := ⟨i, c.id, String.join c.pieces, c.closed⟩

/-- The references in order and the items that the sender keeps for them are those of the cells. -/
structure Ledger.Shows (l : Ledger ρ) (order : List ρ) (item? : ρ → Option Item) : Prop where
  order_eq : order = l.cells.map (·.ref)
  item_eq : ∀ (i : Nat) (c : Cell ρ), l.cells[i]? = some c → item? c.ref = some (c.item i)
  absent : ∀ r, r ∉ order → item? r = none

namespace Ledger.Shows
variable {l : Ledger ρ} {order : List ρ} {item? : ρ → Option Item}

theorem empty : (Ledger.empty : Ledger ρ).Shows [] fun _ => none :=
  ⟨rfl, fun i c h => by simp [Ledger.empty] at h, fun _ _ => rfl⟩

variable {r : ρ}

/-- A reference without an item is new. -/
theorem not_mem (h : l.Shows order item?) (hr : item? r = none) : r ∉ order := by
  rw [h.order_eq]
  intro hmem
  obtain ⟨c, hc, rfl⟩ := mem_map.mp hmem
  obtain ⟨i, hi⟩ := getElem?_of_mem hc
  rw [h.item_eq i c hi] at hr
  cases hr

variable {item : Item}

theorem cell (h : l.Shows order item?) (hit : item? r = some item) :
    ∃ c, l.cells[item.index]? = some c ∧ c.ref = r ∧ item = c.item item.index := by
  have hmem : r ∈ order := by
    by_contra hnot
    rw [h.absent r hnot] at hit
    cases hit
  rw [h.order_eq] at hmem
  obtain ⟨c, hc, rfl⟩ := mem_map.mp hmem
  obtain ⟨i, hi⟩ := getElem?_of_mem hc
  have heq : item = c.item i := Option.some.inj (hit.symm.trans (h.item_eq i c hi))
  exact ⟨c, by rw [heq]; exact hi, rfl, by rw [heq]; rfl⟩

variable [DecidableEq ρ]

section
variable (h : l.Shows order item?)
include h

/-- **An item that is new may be opened.** -/
theorem opening (hr : item? r = none) (id : String) :
    ∃ l' : Ledger ρ, l'.log = l.log ++ [⟨order.length, id, .added⟩] ∧ l'.Shows (order ++ [r])
        (Function.update item? r (some ⟨order.length, id, "", false⟩)) := by
  have hnew := h.not_mem hr
  have hlen : order.length = l.cells.length := by rw [h.order_eq, length_map]
  have hnew' : r ∉ l.cells.map (·.ref) := h.order_eq ▸ hnew
  refine ⟨l.opening r id hnew', by rw [hlen]; rfl, ?_, ?_, ?_⟩
  · rw [h.order_eq]
    simp [Ledger.opening]
  · intro i c hc
    change (l.cells ++ [⟨r, id, [], false⟩])[i]? = some c at hc
    rcases Nat.lt_or_ge i l.cells.length with hi | hi
    · rw [getElem?_append_left hi] at hc
      have hne : c.ref ≠ r := fun heq =>
        hnew' (heq ▸ mem_map_of_mem (mem_of_getElem? hc))
      rw [update_of_ne hne]
      exact h.item_eq i c hc
    · rw [getElem?_append_right hi] at hc
      have hz : i - l.cells.length = 0 := by
        by_contra hpos
        rw [getElem?_eq_none (by simp only [length_singleton]; omega)] at hc
        cases hc
      rw [hz] at hc
      obtain rfl : c = ⟨r, id, [], false⟩ := by simpa using hc.symm
      have hpos : i = order.length := by omega
      rw [update_self, hpos]
      rfl
  · intro r' hr'
    simp only [mem_append, mem_singleton, not_or] at hr'
    rw [update_of_ne hr'.2]
    exact h.absent r' hr'.1

/-- The cell of an item is replaced, and the map with it. -/
theorem changing (hit : item? r = some item)
    {es : List Entry} {f : Cell ρ → Cell ρ} (href : ∀ c, (f c).ref = c.ref)
    (hes : ∀ e ∈ es, e.index = item.index ∧ e.act ≠ .added) {item' : Item}
    (hcell : ∀ c, c.id = item.id → String.join c.pieces = item.text → c.closed = item.closed →
      (f c).trace item.index = c.trace item.index ++ es ∧ (f c).item item.index = item') :
    ∃ l' : Ledger ρ, l'.log = l.log ++ es ∧
      l'.Shows order (Function.update item? r (some item')) := by
  obtain ⟨c, hc, rfl, heq⟩ := h.cell hit
  have hi : item.index < l.cells.length := (List.getElem?_eq_some_iff.mp hc).1
  obtain ⟨htra, hnext⟩ := hcell c (congrArg Item.id heq).symm (congrArg Item.text heq).symm
    (congrArg Item.closed heq).symm
  refine ⟨l.change item.index c (f c) es hc (href c) hes htra, rfl, ?_, ?_, ?_⟩
  · rw [h.order_eq]
    exact (map_ref_set hc (href c)).symm
  · intro j d hd
    change (l.cells.set item.index (f c))[j]? = some d at hd
    by_cases hj : item.index = j
    · subst hj
      rw [getElem?_set_self hi] at hd
      obtain rfl : f c = d := Option.some.inj hd
      rw [href, update_self, hnext]
    · rw [getElem?_set_ne hj] at hd
      -- another position holds another reference
      have hne : d.ref ≠ c.ref := by
        intro hdc
        have hd' := getElem?_map (f := (·.ref)) (l := l.cells) (i := j)
        have hc' := getElem?_map (f := (·.ref)) (l := l.cells) (i := item.index)
        rw [hd] at hd'
        rw [hc] at hc'
        have hi' : item.index < (l.cells.map (·.ref)).length := by simpa using hi
        have hsm : (l.cells.map (·.ref))[item.index]? = (l.cells.map (·.ref))[j]? := by
          rw [hc', hd', Option.map_some, Option.map_some, hdc]
        exact hj ((getElem?_inj hi' l.nodup).mp hsm)
      rw [update_of_ne hne]
      exact h.item_eq j d hd
  · intro r' hr'
    have hne : r' ≠ c.ref := by
      rintro rfl
      rw [h.order_eq] at hr'
      exact hr' (mem_map_of_mem (mem_of_getElem? hc))
    rw [update_of_ne hne]
    exact h.absent r' hr'

/-- **An item that is open may be told more of.** -/
theorem telling (hit : item? r = some item) (hop : item.closed = false) (text : String) :
    ∃ l' : Ledger ρ, l'.log = l.log ++ [⟨item.index, item.id, .told text⟩] ∧
      l'.Shows order (Function.update item? r (some { item with text := item.text ++ text })) := by
  refine h.changing hit (f := fun c => { c with pieces := c.pieces ++ [text] })
    (fun _ => rfl) (by simp) ?_
  intro c hid htx hcl
  simp [Cell.trace, Cell.item, hid, htx, hcl, hop, String.join_append]

/-- **An item that is open may be finished.** -/
theorem closing (hit : item? r = some item) (hop : item.closed = false) : ∃ l' : Ledger ρ,
      l'.log = l.log ++ [⟨item.index, item.id, .finishing⟩, ⟨item.index, item.id, .done⟩] ∧
      l'.Shows order (Function.update item? r (some { item with closed := true })) := by
  refine h.changing hit (f := fun c => { c with closed := true }) (fun _ => rfl) (by simp) ?_
  intro c hid htx hcl
  simp [Cell.trace, Cell.item, hid, htx, hcl, hop]

end

end Ledger.Shows

end ItemLog
