/-
Module: Interpose.Metrics
Purpose: Counters of caches and calls, and the report that is made of them.
Main exports: Counters, CacheReport, Report, Report.text
-/
import Interpose.Numeric.Binary64

namespace Interpose

/-- What a factory counts. -/
structure Counters where
  /-- Thunks compiled, cached or not. -/
  thunkCompilations : Nat := 0
  thunkHits : Nat := 0
  thunkMisses : Nat := 0
  specializationHits : Nat := 0
  specializationMisses : Nat := 0
  /-- Proxy types synthesized. -/
  proxyTypesBuilt : Nat := 0
  proxyTypeHits : Nat := 0
  proxyTypeMisses : Nat := 0
  interceptedCalls : Nat := 0
  passThroughCalls : Nat := 0
deriving DecidableEq, Repr, Inhabited

/-- What is reported of one cache. -/
structure CacheReport where
  hits : Nat
  misses : Nat
  hitRate : Binary64
  size : Nat
deriving DecidableEq, Repr, Inhabited

/-- What is reported of a factory. -/
structure Report where
  thunk : CacheReport
  specialization : CacheReport
  proxyType : CacheReport
  thunkCompilations : Nat
  proxyTypesBuilt : Nat
  interceptedCalls : Nat
  passThroughCalls : Nat
deriving DecidableEq, Repr, Inhabited

/-- A cache with its hit rate: hits and requests as floats, then their
quotient; zero without requests.  Requests are counted in 64 bits. -/
private def CacheReport.ofCounts (hits misses size : Nat) : CacheReport :=
  let requests := (hits + misses) % UInt64.size
  let rate := if requests = 0 then Binary64.zero
    else (Binary64.ofNat hits).divide (Binary64.ofNat requests)
  ⟨hits, misses, rate, size⟩

/-- The report of some counters, given the sizes of the thunk cache and the
proxy type cache.  Each specialization miss adds one specialization, so the
misses are the size of those caches together. -/
def Counters.report (counters : Counters) (thunkSize proxyTypeSize : Nat) : Report where
  thunk := .ofCounts counters.thunkHits counters.thunkMisses thunkSize
  specialization := .ofCounts counters.specializationHits counters.specializationMisses
    counters.specializationMisses
  proxyType := .ofCounts counters.proxyTypeHits counters.proxyTypeMisses proxyTypeSize
  thunkCompilations := counters.thunkCompilations
  proxyTypesBuilt := counters.proxyTypesBuilt
  interceptedCalls := counters.interceptedCalls
  passThroughCalls := counters.passThroughCalls

private def alignRight (width : Nat) (text : String) : String :=
  "".pushn ' ' (width - text.length) ++ text

private def twoPlaces (hundredths : Nat) : String :=
  let fraction := hundredths % 100
  toString (hundredths / 100) ++ "." ++ (if fraction < 10 then "0" else "") ++ toString fraction

/-- One cache on one line. -/
def CacheReport.text (report : CacheReport) : String :=
  let count (n : Nat) := alignRight 8 (toString n)
  "hits: " ++ count report.hits ++ ", misses: " ++ count report.misses ++ ", hit_rate: " ++
    alignRight 6 (twoPlaces report.hitRate.percent.hundredths) ++ "%, size: " ++ count report.size

/-- The whole report, one line for each cache and each counter. -/
def Report.text (report : Report) : String :=
  let count (n : Nat) := alignRight 8 (toString n) ++ "\n"
  "Cache Statistics:\n" ++
  "  Thunk Cache:            " ++ report.thunk.text ++ "\n" ++
  "  Specialization Cache:   " ++ report.specialization.text ++ "\n" ++
  "  Proxy Type Cache:       " ++ report.proxyType.text ++ "\n" ++
  "Thunks compiled:          " ++ count report.thunkCompilations ++
  "Proxy types built:        " ++ count report.proxyTypesBuilt ++
  "Intercepted calls:        " ++ count report.interceptedCalls ++
  "Pass-through calls:       " ++ count report.passThroughCalls

end Interpose
