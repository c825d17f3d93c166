import WebSupervisor.Library.Certificate

/-! Pre- and postconditions for the raising parts of a certified program. An
assertion that the steps of other processes do not take away is stable; the
rules put parts together whose assertions are. -/

namespace WebSupervisor.Library

variable {σ ρ : Type} {ω : ρ → Type} {κ α β γ ε : Type}

namespace Contract
variable (contract : Contract σ ω κ α) (pid : Nat) (call : κ)

def Stable (knows : Shared σ ω α → Prop) : Prop :=
  ∀ seen now, contract.valid seen → contract.valid now → contract.Finds pid call seen now → knows seen → knows now

def Triple (pre : Shared σ ω α → Prop) (program : ExceptT ε (Program σ ω) β)
    (post : Except ε β → Shared σ ω α → Prop) : Prop :=
  ∀ seen, contract.valid seen → pre seen → contract.Safe pid call post program.run seen

variable {contract pid call} {pre : Shared σ ω α → Prop} {post : Except ε β → Shared σ ω α → Prop}

theorem Stable.and {first second : Shared σ ω α → Prop} (one : contract.Stable pid call first)
    (two : contract.Stable pid call second) : contract.Stable pid call (fun now => first now ∧ second now) :=
  fun seen now earlier later found known =>
    ⟨one seen now earlier later found known.1, two seen now earlier later found known.2⟩

theorem Stable.imp {condition : Prop} {knows : Shared σ ω α → Prop} (stable : contract.Stable pid call knows) :
    contract.Stable pid call (fun now => condition → knows now) :=
  fun seen now earlier later found known held => stable seen now earlier later found (known held)

theorem Stable.forall {ι : Sort*} {knows : ι → Shared σ ω α → Prop} (stable : ∀ index, contract.Stable pid call (knows index)) :
    contract.Stable pid call (fun now => ∀ index, knows index now) :=
  fun seen now earlier later found known index => stable index seen now earlier later found (known index)

theorem stable_const {condition : Prop} : contract.Stable pid call (fun _ => condition) := fun _ _ _ _ _ known => known

namespace Triple

theorem weaken {stronger : Shared σ ω α → Prop} {weaker : Except ε β → Shared σ ω α → Prop}
    {program : ExceptT ε (Program σ ω) β} (triple : contract.Triple pid call pre program post)
    (before : ∀ now, contract.valid now → stronger now → pre now)
    (after : ∀ result now, contract.valid now → post result now → weaker result now) :
    contract.Triple pid call stronger program weaker :=
  fun seen valid held => (triple seen valid (before seen valid held)).weaken after

theorem ensure {result : Except ε β} (stable : contract.Stable pid call (post result))
    (implies : ∀ now, contract.valid now → pre now → post result now) :
    contract.Triple pid call pre (Program.ensure result) post :=
  fun seen valid held now later found => stable seen now valid later found (implies seen valid held)

theorem pure {value : β} (stable : contract.Stable pid call (post (.ok value)))
    (implies : ∀ now, contract.valid now → pre now → post (.ok value) now) :
    contract.Triple pid call pre (Pure.pure value : ExceptT ε (Program σ ω) β) post :=
  ensure stable implies

theorem bind {middle : Except ε γ → Shared σ ω α → Prop} {program : ExceptT ε (Program σ ω) γ}
    {next : γ → ExceptT ε (Program σ ω) β} (refl : ∀ shared, contract.rely pid call shared shared)
    (first : contract.Triple pid call pre program middle)
    (rest : ∀ value, contract.Triple pid call (middle (.ok value)) (next value) post)
    (stable : ∀ error, contract.Stable pid call (post (.error error)))
    (raised : ∀ error now, contract.valid now → middle (.error error) now → post (.error error) now) :
    contract.Triple pid call pre (program >>= next) post := by
  intro seen valid held
  refine Certified.andThen (fun shared => ⟨.refl pid shared, refl shared⟩) valid (first seen valid held)
    (fun value now nowValid reached => rest value now nowValid reached) ?_
  intro error now nowValid reached later laterValid found
  exact stable error now later nowValid laterValid found (raised error now nowValid reached)

theorem map {program : ExceptT ε (Program σ ω) γ} {convert : γ → β}
    (refl : ∀ shared, contract.rely pid call shared shared)
    (triple : contract.Triple pid call pre program (fun result => post (result.map convert)))
    (stable : ∀ result, contract.Stable pid call (post result)) :
    contract.Triple pid call pre (convert <$> program) post := by
  intro seen valid held
  refine Certified.bind (fun shared => ⟨.refl pid shared, refl shared⟩) valid (triple seen valid held) ?_
  rintro (error | value) now nowValid reached later laterValid found
  · exact stable _ now later nowValid laterValid found reached
  · exact stable _ now later nowValid laterValid found reached

theorem check {view : σ → Except ε β} (before : contract.Stable pid call pre)
    (after : ∀ result, contract.Stable pid call (post result))
    (step : ∀ now, contract.valid now → pre now →
      Keeps contract.valid (contract.guarantee pid call) now (now.became pid now.store) ∧
      post (view now.store) (now.became pid now.store)) :
    contract.Triple pid call pre (Program.check view) post := by
  intro seen valid held
  apply Certified.check
  intro now nowValid found
  obtain ⟨keeps, reached⟩ := step now nowValid (before seen now valid nowValid found held)
  exact ⟨keeps, fun last lastValid later => after _ _ last keeps.1 lastValid later reached⟩

theorem transaction {work : σ → Except ε (β × σ)} (before : contract.Stable pid call pre)
    (after : ∀ result, contract.Stable pid call (post result))
    (commit : ∀ now value next, contract.valid now → pre now → work now.store = .ok (value, next) →
      Keeps contract.valid (contract.guarantee pid call) now (now.became pid next) ∧
      post (.ok value) (now.became pid next))
    (rollback : ∀ now error, contract.valid now → pre now → work now.store = .error error →
      Keeps contract.valid (contract.guarantee pid call) now (now.became pid now.store) ∧
      post (.error error) (now.became pid now.store)) :
    contract.Triple pid call pre (Program.transaction work) post := by
  intro seen valid held
  apply Certified.transaction
  intro now nowValid found
  have known := before seen now valid nowValid found held
  constructor
  · intro value next done
    obtain ⟨keeps, reached⟩ := commit now value next nowValid known done
    exact ⟨keeps, fun last lastValid later => after _ _ last keeps.1 lastValid later reached⟩
  · intro error refused
    obtain ⟨keeps, reached⟩ := rollback now error nowValid known refused
    exact ⟨keeps, fun last lastValid later => after _ _ last keeps.1 lastValid later reached⟩

theorem ask {request : ρ} {receive : ω request → Except ε β} {waiting : Shared σ ω α → Prop}
    (before : contract.Stable pid call pre) (meanwhile : contract.Stable pid call waiting)
    (after : ∀ result, contract.Stable pid call (post result))
    (issue : ∀ now, contract.valid now → pre now →
      Keeps contract.valid (contract.guarantee pid call) now (now.issue pid request) ∧ waiting (now.issue pid request))
    (answered : ∀ now answer, contract.valid now → waiting now →
      Keeps contract.valid (contract.guarantee pid call) now (now.record (.answered pid request answer)) ∧
      post (receive answer) (now.record (.answered pid request answer))) :
    contract.Triple pid call pre (Program.ask request receive) post := by
  intro seen valid held
  apply Certified.ask
  intro now nowValid found
  obtain ⟨keeps, issued⟩ := issue now nowValid (before seen now valid nowValid found held)
  refine ⟨keeps, fun later laterValid meantime answer => ?_⟩
  obtain ⟨received, reached⟩ :=
    answered later answer laterValid (meanwhile _ later keeps.1 laterValid meantime issued)
  exact ⟨received, fun last lastValid further => after _ _ last received.1 lastValid further reached⟩

theorem attempt {program : ExceptT ε (Program σ ω) β} (triple : contract.Triple pid call pre program post) :
    contract.Triple pid call pre (Program.attempt program)
      (fun result now => ∃ outcome, result = .ok outcome ∧ post outcome now) :=
  fun seen valid held => (triple seen valid held).attempt

end Triple

end Contract

end WebSupervisor.Library
