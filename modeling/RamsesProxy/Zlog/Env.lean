import RamsesProxy.Lib.Pool
import RamsesProxy.Zlog.Category
import RamsesProxy.Zlog.TableRuns

set_option autoImplicit false

namespace Zlog

open CText

structure Conf (Action : Type) where
  rules : List (Rule Action)
  reloadConfPeriod : Nat

-- The static variables of zlog.c. A category is known by its handle in pool, which
-- stands for its address.
structure Env (Action : Type) where
  isInit : Bool
  conf : Option (Conf Action)
  categories : Option (HashTable Bytes Nat)
  defaultCategory : Option Nat
  reloadConfCount : Nat
  pool : Pool (Category Action)

structure FetchMemory where
  categoryAllocated : Bool
  rules : Memory
  tabAllocated : Bool
  entryAllocated : Bool

namespace Env

variable {Action : Type}

def start : Env Action := ⟨false, none, none, none, 0, []⟩

def handles (table : HashTable Bytes Nat) : List Nat := table.entries.map HashEntry.value

def finiInner (env : Env Action) : Env Action :=
  { env with
    conf := none
    categories := none
    defaultCategory := none
    pool := match env.categories with
      | none => env.pool
      | some table => Pool.free (handles table) env.pool }

def initInner (built : Option (Conf Action)) (env : Env Action) : Env Action × Bool :=
  match built with
  | none => (env.finiInner, false)
  | some conf => ({ env with conf := some conf, categories := some (HashTable.new 20) }, true)

def init (built : Option (Conf Action)) (env : Env Action) : Env Action :=
  if env.isInit = true then env
  else { (env.initInner built).1 with isInit := (env.initInner built).2 }

def fetchCategory (memory : FetchMemory) (cname : Bytes) (env : Env Action) : Option (Env Action × Option Nat) :=
  match env.conf, env.categories with
  | some conf, some table =>
      match table.get strKeying (cstr cname) with
      | some handle => some (env, some handle)
      | none =>
          (Category.new memory.categoryAllocated memory.rules conf.rules (cstr cname)).map fun made =>
            match made with
            | none => (env, none)
            | some category =>
                let handle := env.pool.length
                let put := table.put strKeying memory.tabAllocated memory.entryAllocated category.name handle
                if put.2.1 = true then ({ env with categories := some put.1, pool := env.pool ++ [some category] }, some handle)
                else ({ env with categories := some put.1, pool := env.pool ++ [none] }, none)
  | _, _ => some (env, none)

def dzlogInit (built : Option (Conf Action)) (memory : FetchMemory) (cname : Bytes) (env : Env Action) : Option (Env Action) :=
  if env.isInit = true then some env
  else
    let inner := env.initInner built
    if inner.2 = false then some inner.1
    else
      (inner.1.fetchCategory memory cname).map fun fetched =>
        { fetched.1 with defaultCategory := fetched.2, isInit := fetched.2.isSome }

def getCategory (memory : FetchMemory) (cname : Bytes) (env : Env Action) : Option (Env Action × Option Nat) :=
  if env.isInit = true then env.fetchCategory memory cname else some (env, none)

def setCategory (memory : FetchMemory) (cname : Bytes) (env : Env Action) : Option (Env Action) :=
  if env.isInit = true then
    (env.fetchCategory memory cname).map fun fetched => { fetched.1 with defaultCategory := fetched.2 }
  else some env

def fini (env : Env Action) : Env Action := if env.isInit = true then { env.finiInner with isInit := false } else env

def updateAll (memory : Nat → Memory) (rules : List (Rule Action)) (table : HashTable Bytes Nat) (pool : Pool (Category Action)) :
    Option (Pool (Category Action) × Bool) :=
  Pool.visit (fun handle category => category.updateRules (memory handle) rules)
    ((table.foreach table.nelem table.begin).map HashEntry.value) pool

def commitAll (table : HashTable Bytes Nat) (pool : Pool (Category Action)) : Option (Pool (Category Action) × Bool) :=
  Pool.visit (fun _ category => some (category.commitRules, true)) ((table.foreach table.nelem table.begin).map HashEntry.value) pool

def rollbackAll (table : HashTable Bytes Nat) (pool : Pool (Category Action)) : Option (Pool (Category Action) × Bool) :=
  Pool.visit (fun _ category => some (category.rollbackRules, true)) ((table.foreach table.nelem table.begin).map HashEntry.value) pool

-- periodic is the call with the path -1. When the update of the categories fails c_up is 0,
-- so the rollback under err is passed over.
def reload (periodic : Bool) (built : Option (Conf Action)) (memory : Nat → Memory) (env : Env Action) : Option (Env Action × Int) :=
  if env.isInit = false then some (env, 0)
  else
    match env.conf, env.categories with
    | some conf, some table =>
        if periodic = true ∧ env.reloadConfCount ≤ conf.reloadConfPeriod then some (env, 0)
        else
          match built with
          | none => some ({ env with reloadConfCount := 0 }, -1)
          | some newConf => do
              let updated ← updateAll memory newConf.rules table env.pool
              if updated.2 = true then
                let committed ← commitAll table updated.1
                some ({ env with reloadConfCount := 0, conf := some newConf, pool := committed.1 }, 0)
              else some ({ env with reloadConfCount := 0, pool := updated.1 }, -1)
    | _, _ => none

-- The first test reads the category without the lock. A level above 255 has no bit there.
def vzlog (handle level : Nat) (threadFetched : Bool) (outcome : Action → Int) (env : Env Action) : Option (Env Action × List Action) := do
  let category ← env.pool.read handle
  if 256 ≤ level then none
  else if category.needlessLevel level = true then some (env, [])
  else if env.isInit = false ∨ threadFetched = false then some (env, [])
  else
    let written ← category.output outcome level
    let conf ← env.conf
    if written.2 ≠ 0 ∨ conf.reloadConfPeriod = 0 then some (env, written.1)
    else some ({ env with reloadConfCount := env.reloadConfCount + 1 }, written.1)

-- The test before the lock goes through zlog_default_category, so the test for NULL under
-- the lock comes too late.
def vdzlog (level : Nat) (threadFetched : Bool) (outcome : Action → Int) (env : Env Action) : Option (Env Action × List Action) :=
  env.defaultCategory.bind fun handle => env.vzlog handle level threadFetched outcome

end Env

inductive EnvEvent (Action : Type) where
  | init (built : Option (Conf Action))
  | dzlogInit (built : Option (Conf Action)) (memory : FetchMemory) (cname : Bytes)
  | fini
  | reload (periodic : Bool) (built : Option (Conf Action)) (memory : Nat → Memory)
  | getCategory (memory : FetchMemory) (cname : Bytes)
  | setCategory (memory : FetchMemory) (cname : Bytes)
  | vzlog (handle level : Nat) (threadFetched : Bool) (outcome : Action → Int)
  | vdzlog (level : Nat) (threadFetched : Bool) (outcome : Action → Int)

namespace Env

variable {Action : Type}

-- A call that follows a pointer to a freed category, or frees an array twice, has no next
-- state.
def step (env : Env Action) : EnvEvent Action → Option (Env Action)
  | .init built => some (env.init built)
  | .dzlogInit built memory cname => env.dzlogInit built memory cname
  | .fini => some env.fini
  | .reload periodic built memory => (env.reload periodic built memory).map Prod.fst
  | .getCategory memory cname => (env.getCategory memory cname).map Prod.fst
  | .setCategory memory cname => env.setCategory memory cname
  | .vzlog handle level threadFetched outcome => (env.vzlog handle level threadFetched outcome).map Prod.fst
  | .vdzlog level threadFetched outcome => (env.vdzlog level threadFetched outcome).map Prod.fst

end Env

end Zlog
