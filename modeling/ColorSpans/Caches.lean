import ColorSpans.LruCache
import ColorSpans.Matcher
import ColorSpans.Numeral.Binary

/-! Caches of name tables and of compiled matchers. Keys are compared by value; everything made is
numbered, so that a kept value can be told from one made anew. -/
namespace ColorSpans
open Numeral

namespace Json

/-- An integer and a double are the same number. -/
def isSameNumber (n : Int) (x : Float) : Bool :=
  match floor x, ofInt n with
  | .ok m, .ok y => m == n && y == x
  | _, _ => false

def asNumber : Json → Json
  | .bool b => .int (if b then 1 else 0)
  | value => value

/-- Truth values count as one and zero, and numbers are compared whatever their kind. -/
def isSameKey (a b : Json) : Bool :=
  match a.asNumber, b.asNumber with
  | .null, .null => true
  | .int m, .int n => m == n
  | .int n, .float x => isSameNumber n x
  | .float x, .int n => isSameNumber n x
  | .float x, .float y => x == y
  | .str s, .str t => s == t
  | _, _ => false

end Json

/-- The same names with the same values, in any order. -/
def HostNames.isSame (a b : HostNames) : Bool :=
  a.length == b.length && a.all fun e => (b.lookup e.1).any e.2.isSameKey

def sameHostNames : Option HostNames → Option HostNames → Bool
  | none, none => true
  | some a, some b => HostNames.isSame a b
  | _, _ => false

def NameRequest.isSame (a b : NameRequest) : Bool :=
  a.palette == b.palette && sameHostNames a.hostNames b.hostNames

def Config.isSame (a b : Config) : Bool :=
  a.names == b.names && a.hexLengths == b.hexLengths && a.argb == b.argb &&
    a.rgbFunctions == b.rgbFunctions && a.hslFunctions == b.hslFunctions &&
    a.paletteMode == b.paletteMode && a.usesVariables == b.usesVariables &&
    sameHostNames a.hostNames b.hostNames

structure TableCache where
  entries : LruCache NameRequest (Nat × NameTable)
  made : Nat

namespace TableCache

def new : TableCache := ⟨.empty 16, 0⟩

def clear (c : TableCache) : TableCache := { c with entries := .empty 16 }

def get (c : TableCache) (palette : Palette) (request : NameRequest) :
    (Nat × NameTable) × TableCache :=
  match c.entries.find? NameRequest.isSame request with
  | some (found, entries) => (found, { c with entries })
  | none =>
      let made := (c.made, request.table palette)
      (made, ⟨c.entries.add request made, c.made + 1⟩)

end TableCache

/-- That a configuration has no matcher is kept as well. The tables that matchers are made of
outlast them. -/
structure MatcherCache where
  entries : LruCache Config (Option (Nat × Matcher))
  made : Nat
  tables : TableCache

namespace MatcherCache

def new : MatcherCache := ⟨.empty 32, 0, .new⟩

def clear (c : MatcherCache) : MatcherCache := { c with entries := .empty 32 }

def clearTables (c : MatcherCache) : MatcherCache := { c with tables := c.tables.clear }

def getTable (c : MatcherCache) (palette : Palette) (request : NameRequest) :
    (Nat × NameTable) × MatcherCache :=
  let (found, tables) := c.tables.get palette request
  (found, { c with tables })

/-- A new matcher, with a table that may have been made before. -/
def compile (c : MatcherCache) (palette : Palette) (config : Config) : Matcher × MatcherCache :=
  match config.nameRequest with
  | none => (.ofTable .double config none, c)
  | some request =>
      let ((_, table), c) := c.getTable palette request
      (.ofTable .double config (some table), c)

def get (c : MatcherCache) (palette : Palette) (config : Config) :
    Option (Nat × Matcher) × MatcherCache :=
  match c.entries.find? Config.isSame config with
  | some (found, entries) => (found, { c with entries })
  | none =>
      if config.isEnabled then
        let (m, c) := c.compile palette config
        (some (c.made, m),
          { c with entries := c.entries.add config (some (c.made, m)), made := c.made + 1 })
      else (none, { c with entries := c.entries.add config none })

end MatcherCache

end ColorSpans
