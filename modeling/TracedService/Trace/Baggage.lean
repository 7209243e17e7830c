import TracedService.Text.Ascii
import TracedService.Text.Utf8

/-! Baggage: named values that travel beside the trace. Keys are distinct and plain ASCII, and the
collection is bounded in entries, in bytes per entry and in bytes overall. -/

namespace TracedService

structure BaggageEntry where
  key : List Char
  value : List Char
  /-- Text behind the value, without blanks at its ends. -/
  properties : List Char
  deriving DecidableEq, Repr

namespace BaggageEntry

def bytes (e : BaggageEntry) : Nat :=
  Text.Utf8.length e.key + Text.Utf8.length e.value + Text.Utf8.length e.properties

def hasAsciiKey (e : BaggageEntry) : Bool :=
  e.key.all Text.isAscii

end BaggageEntry

namespace Baggage

def maxEntryBytes : Nat := 4096
def maxEntries : Nat := 180
def maxTotalBytes : Nat := 8192

def totalBytes (es : List BaggageEntry) : Nat :=
  es.foldr (fun e n => e.bytes + n) 0

/-- What every collection keeps to. -/
structure Bounded (es : List BaggageEntry) : Prop where
  distinct : (es.map (·.key)).Nodup
  each : ∀ e ∈ es, e.hasAsciiKey = true ∧ e.bytes < maxEntryBytes
  total : totalBytes es ≤ maxTotalBytes
  count : es.length ≤ maxEntries

theorem Bounded.nil : Bounded [] :=
  ⟨List.nodup_nil, nofun, Nat.zero_le _, Nat.zero_le _⟩

def place (e : BaggageEntry) : List BaggageEntry → List BaggageEntry
  | [] => [e]
  | x :: xs => if x.key = e.key then e :: xs else x :: place e xs

variable {e : BaggageEntry} {es : List BaggageEntry}

theorem of_mem_place {x : BaggageEntry} (h : x ∈ place e es) : x = e ∨ x ∈ es := by
  induction es with
  | nil => exact .inl (List.mem_singleton.mp h)
  | cons y ys ih =>
    rw [place] at h
    split at h
    · rcases List.mem_cons.mp h with rfl | h
      · exact .inl rfl
      · exact .inr (List.mem_cons_of_mem _ h)
    · rcases List.mem_cons.mp h with rfl | h
      · exact .inr List.mem_cons_self
      · exact (ih h).imp_right (List.mem_cons_of_mem _)

theorem distinct_place (h : (es.map (·.key)).Nodup) : ((place e es).map (·.key)).Nodup := by
  induction es with
  | nil => simp [place]
  | cons x xs ih =>
    rw [List.map_cons, List.nodup_cons] at h
    rw [place]
    split
    · rename_i hx
      rw [List.map_cons, List.nodup_cons, ← hx]
      exact h
    · rename_i hx
      rw [List.map_cons, List.nodup_cons]
      refine ⟨?_, ih h.2⟩
      intro hk
      obtain ⟨y, hy, hyx⟩ := List.mem_map.mp hk
      rcases of_mem_place hy with rfl | hy
      · exact hx hyx.symm
      · exact h.1 (List.mem_map.mpr ⟨y, hy, hyx⟩)

theorem bounded_place (h : Bounded es) (he : e.hasAsciiKey = true ∧ e.bytes < maxEntryBytes)
    (ht : totalBytes (place e es) ≤ maxTotalBytes) (hc : (place e es).length ≤ maxEntries) :
    Bounded (place e es) where
  distinct := distinct_place h.distinct
  each x hx := by
    rcases of_mem_place hx with rfl | hx
    · exact he
    · exact h.each x hx
  total := ht
  count := hc

end Baggage

structure Baggage where
  entries : List BaggageEntry := []
  bounded : Baggage.Bounded entries := by exact Baggage.Bounded.nil
  deriving DecidableEq, Repr, Inhabited

namespace Baggage

def find? (b : Baggage) (key : List Char) : Option BaggageEntry :=
  b.entries.find? (·.key == key)

/-- Leaves the baggage alone when the entry has a foreign key or would break a bound. -/
def insert (b : Baggage) (e : BaggageEntry) : Baggage :=
  if h : (e.hasAsciiKey = true ∧ e.bytes < maxEntryBytes) ∧
      totalBytes (place e b.entries) ≤ maxTotalBytes ∧ (place e b.entries).length ≤ maxEntries then
    ⟨place e b.entries, bounded_place b.bounded h.1 h.2.1 h.2.2⟩
  else b

def insertAll (b : Baggage) (es : List BaggageEntry) : Baggage :=
  es.foldl insert b

end Baggage

end TracedService
