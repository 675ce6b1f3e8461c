/-! A cache of bounded size that drops the entry used longest ago. -/
namespace ColorSpans

/-- Entries from the most recently used to the least. -/
structure LruCache (κ α : Type) where
  capacity : Nat
  entries : List (κ × α)

namespace LruCache

variable {κ α : Type}

def empty (capacity : Nat) : LruCache κ α := ⟨capacity, []⟩

/-- A hit makes its entry the most recent one. -/
def find? (same : κ → κ → Bool) (cache : LruCache κ α) (key : κ) : Option (α × LruCache κ α) :=
  (cache.entries.find? fun e => same e.1 key).map fun e =>
    (e.2, { cache with entries := e :: cache.entries.eraseP fun e => same e.1 key })

def add (cache : LruCache κ α) (key : κ) (value : α) : LruCache κ α :=
  { cache with entries := ((key, value) :: cache.entries).take cache.capacity }

end LruCache

end ColorSpans
