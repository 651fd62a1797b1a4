import LevelScript.Proofs.Ownership

/-!
What a script cannot touch.

A script that runs on the actor of one seat changes that actor, the variables of the level and of
its arena, and it brings new actors to the end of its arena.  Everything else is spared, however the
run ends.  That the arena is the right one rests on ownership: a script runs in the arena that its
actor names, and in a level that was built and played this is the arena in which the actor sits.
-/

namespace LevelScript

/-- The second arena is the first one but for the actor on a seat, the variables, and actors that
joined at the end. -/
structure Arena.Spared (seat : Seat) (a b : Arena) : Prop where
  id_eq : b.id = a.id
  name_eq : b.name = a.name
  music_eq : b.music = a.music
  setups_eq : b.setups = a.setups
  inits_eq : b.inits = a.inits
  setupLogs_eq : b.setupLogs = a.setupLogs
  self : seat ≠ .self → b.self = a.self
  size_le : a.live.size ≤ b.live.size
  live : ∀ k, k < a.live.size → seat ≠ .live k → b.live[k]? = a.live[k]?

/-- The second level is the first one but for its variables and one arena, in which all but the
actor on one seat is spared. -/
structure Level.Spared (index : Nat) (seat : Seat) (a b : Level) : Prop where
  name_eq : b.name = a.name
  fileSize_eq : b.fileSize = a.fileSize
  bytes_eq : b.bytes = a.bytes
  meshes_eq : b.meshes = a.meshes
  scripts_eq : b.scripts = a.scripts
  size_eq : b.arenas.size = a.arenas.size
  other : ∀ i, i ≠ index → b.arenas[i]? = a.arenas[i]?
  home : ∀ arena, a.arenas[index]? = some arena →
    ∃ arena', b.arenas[index]? = some arena' ∧ arena.Spared seat arena'

theorem Arena.Spared.refl (seat : Seat) (arena : Arena) : arena.Spared seat arena :=
  ⟨rfl, rfl, rfl, rfl, rfl, rfl, fun _ => rfl, Nat.le_refl _, fun _ _ _ => rfl⟩

theorem Level.Spared.refl (index : Nat) (seat : Seat) (level : Level) :
    level.Spared index seat level :=
  ⟨rfl, rfl, rfl, rfl, rfl, rfl, fun _ _ => rfl, fun arena harena => ⟨arena, harena, .refl _ _⟩⟩

namespace Session

end Session

end LevelScript
