import Querent.NameMap
import Querent.Session.Basic

/-! Sessions under names. -/

namespace Querent

/-- Sessions, each under a name. -/
structure Registry (σ : Type) where
  sessions : NameMap (Session σ)

namespace Registry

variable {σ : Type}

/-- A registry without sessions. -/
def empty : Registry σ := ⟨.empty⟩

/-- The session under a name. -/
def find? (registry : Registry σ) (name : String) : Option (Session σ) :=
  registry.sessions.find? name

/-- Puts a session under a name, and gives the session that it replaces. -/
def registerAs (registry : Registry σ) (name : String) (session : Session σ) :
    Option (Session σ) × Registry σ :=
  (registry.find? name, ⟨registry.sessions.insert name session⟩)

/-- Puts a session under the name of its backend, and gives the session that it replaces. -/
def register (registry : Registry σ) (session : Session σ) : Option (Session σ) × Registry σ :=
  registry.registerAs session.backend.name session

/-- Takes away the session under a name, and gives it. -/
def remove (registry : Registry σ) (name : String) : Option (Session σ) × Registry σ :=
  (registry.find? name, ⟨registry.sessions.erase name⟩)

/-- The names in order. -/
def names (registry : Registry σ) : List String :=
  registry.sessions.names

/-- How many sessions there are. -/
def size (registry : Registry σ) : Nat :=
  registry.sessions.size

end Registry

end Querent
