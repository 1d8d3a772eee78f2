import Figment.Cache
import Figment.Data.Bundled
import Figment.Data.Source
import Figment.Data.Store
import Figment.Provider
/-!
Generators: what values are generated from. A generator knows its chain of locales, its data and its
providers; the source of randomness is not part of it.
-/

namespace Figment

structure Generator where
  chain : Chain
  /-- How many directives may be evaluated within each other. -/
  maxDepth : Nat
  store : Store
  registry : Registry
  /-- The instances of providers handed out so far, each with its number. -/
  instances : Cache Provider Nat

/-- Changes to a generator. After a failure those made before it stay. -/
abbrev Setup := ExceptT LoadFailure (StateM Generator)

namespace Generator

def standardProviders : Registry :=
  ((Registry.empty.register "EnglandFootball" .football).register "Number" .numbers).register
    "Name" (.ofCategory "Name")

def new (locale : String) (maxDepth : Nat) (bundled : Bool) : Except LoadFailure Generator :=
  (Chain.ofText locale).map fun chain =>
    { chain
      maxDepth
      store := if bundled then Bundled.store else Store.empty
      registry := standardProviders
      instances := Cache.empty }

def addTree (locale : String) (t : Tree) : Setup Unit := do
  let chain ← Chain.ofText locale
  modify fun g => { g with store := g.store.merge chain.primary t }

def addText (locale text : String) : Setup Unit := do
  let t ← Tree.ofYaml "<string>" text
  addTree locale t

/-- Adds the data of a file, whose content or the reason why it cannot be read is given. -/
def addFile (locale path : String) (content : Except String String) : Setup Unit := do
  match content with
  | .error reason => throw (.unreadable path reason)
  | .ok text =>
    let t ← Tree.ofYaml path text
    addTree locale t

def register (g : Generator) (name : String) (p : Provider) : Generator :=
  { g with registry := g.registry.register name p }

def registerCategory (g : Generator) (name : String) : Generator :=
  g.register name (.ofCategory name)

def lookup (g : Generator) (key : String) : Option (List String) :=
  g.store.lookup g.chain key

def hasKey (g : Generator) (key : String) : Bool :=
  (g.lookup key).isSome

def instanceOf (g : Generator) (p : Provider) : Nat × Generator :=
  let (n, instances) := g.instances.getOrCreate p fun _ => g.instances.size
  (n, { g with instances })

end Generator

end Figment
