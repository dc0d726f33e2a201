import HeadEnd.Proofs.Session.Operation

/-! # Access by position

The readers of this library take lists apart by their form and cannot miss an element. A program
may also pick elements by their position, count positions back and show times in local time. Then it
breaks off where there is no element, where the difference is negative, or where local time lies
outside the years of the clock arithmetic.

Such programs are written with the three steps below. One that is the same as a program without them
never breaks off.
-/

namespace HeadEnd

/-- Local time in the zone lies within the covered years. -/
def ZonedTime.HasLocalTime (time : ZonedTime) : Prop :=
  Instant.Representable { time.instant with seconds := time.instant.seconds + time.offset }

instance (time : ZonedTime) : Decidable time.HasLocalTime :=
  inferInstanceAs (Decidable (Instant.Representable _))

/-- Why a program breaks off. -/
inductive Breach where
  /-- A list of `size` elements has none at `position`. -/
  | index (position size : Nat)
  /-- The difference is negative. -/
  | underflow (minuend subtrahend : Int)
  /-- Local time lies outside the covered years. -/
  | localTime (time : ZonedTime)
  deriving DecidableEq

/-- A program that may break off. -/
abbrev Breakable (m : Type → Type) : Type → Type :=
  ExceptT Breach m

namespace Breakable

variable {m : Type → Type} [Monad m] {α β : Type}

/-! ## Steps that break off -/

def elementAt (elements : List α) (position : Nat) : Breakable m α :=
  match elements[position]? with
  | some element => pure element
  | none => throw (.index position elements.length)

/-- A difference of positions. -/
def difference (minuend subtrahend : Int) : Breakable m Nat :=
  if subtrahend ≤ minuend then pure (minuend - subtrahend).toNat
  else throw (.underflow minuend subtrahend)

def localTime (time : ZonedTime) : Breakable m LocalTime :=
  if time.HasLocalTime then pure time.civil else throw (.localTime time)

theorem elementAt_of_getElem? {elements : List α} {position : Nat} {element : α}
    (h : elements[position]? = some element) :
    elementAt elements position = (pure element : Breakable m α) := by
  simp only [elementAt, h]

theorem difference_of_le {minuend subtrahend : Int} (h : subtrahend ≤ minuend) :
    difference minuend subtrahend = (pure (minuend - subtrahend).toNat : Breakable m Nat) :=
  if_pos h

theorem localTime_of_hasLocalTime {time : ZonedTime} (h : time.HasLocalTime) :
    localTime time = (pure time.civil : Breakable m LocalTime) :=
  if_pos h

/-! ## Programs that do not break off -/

/-- A program without a step that may break off. -/
def intact (x : m α) : Breakable m α :=
  ExceptT.lift x

section Laws

variable [LawfulMonad m]

@[simp] theorem intact_pure (a : α) : intact (pure a : m α) = pure a := by
  simp only [intact, ExceptT.lift, map_pure]
  rfl

@[simp] theorem intact_bind (x : m α) (f : α → m β) :
    intact (x >>= f) = intact x >>= fun a => intact (f a) :=
  liftM_bind (n := Breakable m) x f

@[simp] theorem intact_map (f : α → β) (x : m α) : intact (f <$> x) = f <$> intact x :=
  liftM_map (n := Breakable m) f x

@[simp] theorem intact_mapM (f : α → m β) (xs : List α) :
    intact (xs.mapM f) = xs.mapM fun a => intact (f a) := by
  induction xs with
  | nil => simp only [List.mapM_nil, intact_pure]
  | cons a xs ih => simp only [List.mapM_cons, intact_bind, intact_pure, ih]

end Laws

/-! ## How operations end -/

/-- The operation has not broken off when it ends: whatever the world answers, it returns a result
or it fails. -/
def Completes (x : Breakable Operation α) : Prop :=
  ∀ {σ : Type} (world : (question : Question) → σ → Answer question × σ) (device : Device) (s : σ),
    ∃ outcome : Outcome α, ((x.run.run.run device).run world s).1.1 = Except.ok <$> outcome

/-- An operation without a step that may break off ends with what it would end with. -/
theorem completes_intact (x : Operation α) : Completes (intact x) := by
  intro σ world device s
  refine ⟨((x.run.run device).run world s).1.1, ?_⟩
  have hrun : (intact x).run.run.run device =
      x.run.run device >>= fun (outcome, device) => pure (Except.ok <$> outcome, device) := by
    refine bind_congr (x := x.run.run device) fun ending => ?_
    match ending with
    | (.ok a, device) => rfl
    | (.error failure, device) => rfl
  rw [hrun, Dialogue.run_bind]
  rfl

end Breakable

end HeadEnd
