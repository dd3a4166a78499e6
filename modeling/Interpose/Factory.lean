/-
Module: Interpose.Factory
Purpose: What the proxies of one factory share: configuration, counters and caches.
Main exports: Entry, Specialization, Factory and its operations
-/
import Interpose.Config
import Interpose.Metrics
import Interpose.Table
import Interpose.Thunk
import Interpose.Proxy.Descriptor

namespace Interpose

/-- A thunk with the number of its compilation, which tells it from a thunk
of the same method that was compiled another time. -/
structure SharedThunk where
  serial : Nat
  thunk : Thunk
deriving DecidableEq, Repr, Inhabited

/-- A method paired with its thunk once it has been compiled. -/
structure Entry where
  method : Method
  thunk : Option SharedThunk
deriving DecidableEq, Repr, Inhabited

/-- A generic method closed over one list of type arguments. -/
structure Specialization where
  typeArguments : List RuntimeType
  method : Method
  entry : EntryId
deriving DecidableEq, Repr, Inhabited

/-- Specializations of one generic definition by type arguments. -/
structure SpecializationCache where
  slot : Slot
  specializations : Table (List RuntimeType) Specialization
deriving Inhabited

/-- Shared state of the proxies of one factory.  `entries` holds every entry
there is, those of the thunk cache and those of the specializations. -/
structure Factory where
  config : Config
  counters : Counters
  entries : Array Entry
  thunkIndex : Table Method EntryId
  specializationCaches : Array SpecializationCache
  proxyTypes : Table DescriptorKey ProxyType
deriving Inhabited

namespace Factory

def ofConfig (config : Config) : Factory :=
  ⟨config, {}, #[], .empty, #[], .empty⟩

def entry (f : Factory) (id : EntryId) : Entry := f.entries[id]?.getD default

def specializationCache (f : Factory) (id : CacheId) : SpecializationCache :=
  f.specializationCaches[id]?.getD default

/-- Compile a method afresh. -/
def compile (u : Universe) (method : Method) (f : Factory) : Except Fault SharedThunk × Factory :=
  match u.compile method with
  | .error fault => (.error fault, f)
  | .ok thunk =>
      (.ok ⟨f.counters.thunkCompilations, thunk⟩,
        { f with counters.thunkCompilations := f.counters.thunkCompilations + 1 })

/-- A new entry for a method. -/
def addEntry (method : Method) (thunk : Option SharedThunk) (f : Factory) : EntryId × Factory :=
  (f.entries.size, { f with entries := f.entries.push ⟨method, thunk⟩ })

def countThunkHit (f : Factory) : Factory :=
  { f with counters.thunkHits := f.counters.thunkHits + 1 }

/-- Put a new entry into the thunk cache, which is a miss. -/
def addToThunkIndex (method : Method) (thunk : Option SharedThunk) (f : Factory) :
    EntryId × Factory :=
  let (id, f) := f.addEntry method thunk
  (id, { f with
    counters.thunkMisses := f.counters.thunkMisses + 1
    thunkIndex := f.thunkIndex.insert method id })

/-- The thunk of an entry.  It is compiled at most once; a compilation that
fails leaves the entry empty. -/
def entryThunk (u : Universe) (id : EntryId) (f : Factory) :
    Except Fault SharedThunk × Factory :=
  match (f.entry id).thunk with
  | some thunk => (.ok thunk, f)
  | none =>
      match f.compile u (f.entry id).method with
      | (.error fault, f) => (.error fault, f)
      | (.ok thunk, f) =>
          (.ok thunk,
            { f with entries := f.entries.modify id fun entry => { entry with thunk := thunk } })

/-- The entry that the thunk cache has for a method; a new one, not yet
compiled, if there is none. -/
def thunkEntry (method : Method) (f : Factory) : EntryId × Factory :=
  match f.thunkIndex.find? method with
  | some id => (id, f.countThunkHit)
  | none => f.addToThunkIndex method none

/-- The thunk that the thunk cache has for a method.  A method that is not
there is compiled first and entered only if that succeeds. -/
def getOrCompile (u : Universe) (method : Method) (f : Factory) :
    Except Fault SharedThunk × Factory :=
  match f.thunkIndex.find? method with
  -- A proxy type enters its methods uncompiled, so also a hit may have to compile.
  | some id => f.countThunkHit.entryThunk u id
  | none =>
      match f.compile u method with
      | (.error fault, f) => (.error fault, f)
      | (.ok thunk, f) => (.ok thunk, (f.addToThunkIndex method (some thunk)).2)

/-- A new specialization cache for the definition of a method. -/
def addSpecializationCache (slot : Slot) (f : Factory) : CacheId × Factory :=
  (f.specializationCaches.size,
    { f with specializationCaches := f.specializationCaches.push ⟨slot, .empty⟩ })

/-- The specialization for a list of type arguments, made on first request.
The number of arguments must be the one that the definition declares. -/
def specialize (u : Universe) (id : CacheId) (arguments : List RuntimeType) (f : Factory) :
    Except Fault Specialization × Factory :=
  let cache := f.specializationCache id
  match cache.specializations.find? arguments with
  | some specialization =>
      (.ok specialization,
        { f with counters.specializationHits := f.counters.specializationHits + 1 })
  | none =>
      match u.makeGeneric cache.slot.toMethod arguments with
      | .error fault => (.error fault, f)
      | .ok method =>
          -- The entry belongs to the specialization alone; the thunk cache does not know it.
          let (entry, f) := f.addEntry method none
          let specialization : Specialization := ⟨arguments, method, entry⟩
          (.ok specialization,
            { f with
              counters.specializationMisses := f.counters.specializationMisses + 1
              specializationCaches := f.specializationCaches.modify id fun cache =>
                { cache with
                  specializations := cache.specializations.insert arguments specialization } })

def countIntercepted (f : Factory) : Factory :=
  { f with counters.interceptedCalls := f.counters.interceptedCalls + 1 }

def countPassThrough (f : Factory) : Factory :=
  { f with counters.passThroughCalls := f.counters.passThroughCalls + 1 }

def countProxyTypeBuilt (f : Factory) : Factory :=
  { f with counters.proxyTypesBuilt := f.counters.proxyTypesBuilt + 1 }

/-- Number of specializations over all caches. -/
def specializationCount (f : Factory) : Nat :=
  f.specializationCaches.foldl (fun count cache => count + cache.specializations.size) 0

/-- The report of the factory's counters and caches. -/
def report (f : Factory) : Report :=
  f.counters.report f.thunkIndex.size f.proxyTypes.size

end Factory

end Interpose
