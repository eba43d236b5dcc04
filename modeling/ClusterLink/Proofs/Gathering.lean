/-
# Gathering the arguments of a command

Whoever gives a command passes objects, and the command copies what they
hold, one object after the other, in the order of its parameters. A sequence
may be anything that hands over objects: the command asks it for an iterator,
and copies each object before it draws the next. So a call takes time. To
draw an object may change others, and in between something else may happen.

What some arguments hold at a moment is what a command gathers that is given
at this moment and has them for itself (`World.Hold`). There is only one such
result (`World.Hold.unique`); of objects and lists of objects it is what each
of them holds (`World.hold_of_holdsAs`). But arguments hold what they do
together: an iterator that is given for two of them is drawn to its end for
the first, and holds nothing for the second (`World.hold_again`).

If something else happens while arguments are gathered, but nothing that
touches what is still to come, they are gathered as they were held when the
command was given (`World.Gathers.held`).

Key definitions: `World`, `World.run`, `Objects`, `Stage`, `Stage.advance`,
`Stage.effect`, `World.Gathers`, `World.Hold`, `World.sparing`,
`World.HoldsAs`, `Shelf.objects`.
Key theorems: `World.Hold.unique`, `World.Gathers.held`,
`World.hold_of_holdsAs`, `World.hold_again`, `Shelf.hold_launchTasks`.
-/
import ClusterLink.Envelope.Desk
import ClusterLink.Proofs.Cargo
import ClusterLink.System.Move

namespace ClusterLink

/-! ### The objects of the callers -/

/-- A system, and a memory with the objects of those who call it. -/
structure World (σ : Type) where
  memory : σ
  system : System

/-- Something that happens. -/
inductive World.Step (σ : Type)
  /-- The callers do something to their objects. -/
  | own (f : σ → σ)
  | move (m : Move)

/-- How the objects of a memory behave. An object is named by a `ρ`, and one that a callback kept by
its place. -/
structure Objects (σ ρ : Type) where
  /-- What an object looks like as an argument. -/
  look : σ → ρ → Except Failure Argument
  /-- A sequence is asked for an iterator. -/
  iterate : σ → ρ → Except Failure ρ × σ
  /-- The next object is drawn from an iterator, if it is not at its end. -/
  next : σ → ρ → Except Failure (Option (ρ ⊕ Int)) × σ

namespace World

variable {σ ρ : Type}

/-- One step. -/
def step (w : World σ) : Step σ → World σ
  | .own f => { w with memory := f w.memory }
  | .move m => { w with system := w.system.step m }

/-- A row of steps. -/
def run (w : World σ) (steps : List (Step σ)) : World σ := steps.foldl step w

/-- What an object looks like at the moment. -/
def find (objects : Objects σ ρ) (w : World σ) : ρ ⊕ Int → Except Failure Argument :=
  Sum.elim (objects.look w.memory) w.system.find

end World

/-! ### One argument -/

/-- A sequence that was copied. -/
def Argument.copied (bs : List Bytes) : Argument := .list (bs.map .octets)

/-- How far a command has come with an argument. -/
inductive Stage (ρ : Type)
  /-- An object is to be copied, in this way. -/
  | copy (how : Argument → Except Failure Bytes) (x : ρ ⊕ Int)
  /-- The elements of a sequence are to be copied. -/
  | copyAll (x : ρ ⊕ Int)
  /-- The rest of an iterator is, after those that were taken. -/
  | rest (it : ρ) (taken : List Bytes)
  /-- The same, with an object that was drawn, but not copied so far. -/
  | drawn (it : ρ) (taken : List Bytes) (x : ρ ⊕ Int)

namespace Stage

variable {σ ρ : Type} (objects : Objects σ ρ)

/-- How the command comes on with the argument: that it is done with it, or how far it is then. What
was kept by a callback is no sequence that could change while its elements are drawn. -/
def advance (w : World σ) : Stage ρ → Except Failure (Argument ⊕ Stage ρ)
  | copy how x => ((w.find objects x).bind how).map fun b => .inl (.octets b)
  | copyAll (.inl r) => (objects.iterate w.memory r).1.map fun it => .inr (rest it [])
  | copyAll (.inr i) =>
    ((w.system.find i).bind Argument.copyInAll).map fun bs => .inl (.copied bs)
  | rest it taken => (objects.next w.memory it).1.map fun
    | some x => .inr (drawn it taken x)
    | none => .inl (.copied taken)
  | drawn it taken x =>
    ((w.find objects x).bind Argument.copyIn).map fun b => .inr (rest it (taken ++ [b]))

/-- What becomes of the memory with that. -/
def effect : Stage ρ → σ → σ
  | copyAll (.inl r), m => (objects.iterate m r).2
  | rest it _, m => (objects.next m it).2
  | _, m => m

end Stage

/-! ### The arguments of a command -/

namespace Order

variable {α β ρ : Type}

/-- The command with other arguments. -/
def map (f : α → β) : Order α → Order β
  | launchTasks os ts fs => .launchTasks (f os) (f ts) (fs.map f)
  | declineOffer o fs => .declineOffer (f o) (fs.map f)
  | killTask t => .killTask (f t)
  | reviveOffers => .reviveOffers
  | requestResources rs => .requestResources (f rs)
  | messageExecutor e s data => .messageExecutor (f e) (f s) (f data)
  | updateStatus s => .updateStatus (f s)
  | messageFramework data => .messageFramework (f data)

/-- The arguments of the command, in order. -/
def arguments : Order α → List α
  | launchTasks os ts fs => os :: ts :: fs.toList
  | declineOffer o fs => o :: fs.toList
  | killTask t => [t]
  | reviveOffers => []
  | requestResources rs => [rs]
  | messageExecutor e s data => [e, s, data]
  | updateStatus s => [s]
  | messageFramework data => [data]

/-- A sequence among the arguments; it comes packed over the flat surface. -/
def sequence : Surface → ρ ⊕ Int → Stage ρ
  | .direct, x => .copyAll x
  | .flat, x => .copy Argument.copyIn x

/-- An argument that may be none. -/
def optional : ρ ⊕ Int → Stage ρ := .copy fun a => Argument.copyInOptional (some a)

/-- What is to be done with the arguments of a command. -/
def stages (surface : Surface) : Order (ρ ⊕ Int) → List (Stage ρ)
  | launchTasks os ts fs =>
    sequence surface os :: sequence surface ts :: fs.toList.map optional
  | declineOffer o fs => .copy Argument.copyIn o :: fs.toList.map optional
  | requestResources rs => [sequence surface rs]
  | o => o.arguments.map (.copy Argument.copyIn)

end Order

namespace World

variable {σ ρ : Type} (objects : Objects σ ρ)

/-- In these steps arguments are gathered, one after the other, and this comes of them; in between
happens what `may` happen at that stage. -/
inductive Gathers (may : List (Stage ρ) → World σ → Step σ → Prop) :
    List (Stage ρ) → World σ → List (Step σ) → List Argument → Prop
  | done {w : World σ} : Gathers may [] w [] []
  /-- Something else happens, be it that an iterator uses the system before it hands over an object.
  -/
  | wait {ts : List (Stage ρ)} {w : World σ} {st : Step σ} {steps : List (Step σ)}
    {as : List Argument} (hm : may ts w st) (h : Gathers may ts (w.step st) steps as) :
    Gathers may ts w (st :: steps) as
  /-- The command comes on with an argument. -/
  | advance {t t' : Stage ρ} {ts : List (Stage ρ)} {w : World σ} {steps : List (Step σ)}
    {as : List Argument} (ht : t.advance objects w = .ok (.inr t'))
    (h : Gathers may (t' :: ts) (w.step (.own (t.effect objects))) steps as) :
    Gathers may (t :: ts) w (.own (t.effect objects) :: steps) as
  /-- It is done with an argument. -/
  | finish {t : Stage ρ} {ts : List (Stage ρ)} {w : World σ} {steps : List (Step σ)} {a : Argument}
    {as : List Argument} (ht : t.advance objects w = .ok (.inl a))
    (h : Gathers may ts (w.step (.own (t.effect objects))) steps as) :
    Gathers may (t :: ts) w (.own (t.effect objects) :: steps) (a :: as)

/-- Anything may happen. -/
def freely : List (Stage ρ) → World σ → Step σ → Prop := fun _ _ _ => True

/-- Nothing else may happen. -/
def alone : List (Stage ρ) → World σ → Step σ → Prop := fun _ _ _ => False

/-- What some arguments hold: what a command gathers that has them for itself. -/
def Hold (w : World σ) (ts : List (Stage ρ)) (as : List Argument) : Prop :=
  ∃ steps, Gathers objects alone ts w steps as

/-- What happens does not touch what is still to come: whatever the arguments hold then, they held
before. -/
def sparing : List (Stage ρ) → World σ → Step σ → Prop := fun ts w st =>
  ∀ as, Hold objects (w.step st) ts as → Hold objects w ts as

variable {objects} {w : World σ} {t : Stage ρ} {ts : List (Stage ρ)} {as bs : List Argument}

theorem Gathers.unique {steps more : List (Step σ)} (h : Gathers objects alone ts w steps as)
    (h' : Gathers objects alone ts w more bs) : as = bs := by
  induction h generalizing more bs with
  | done =>
    cases h' with
    | done => rfl
    | wait hm => exact hm.elim
  | wait hm => exact hm.elim
  | advance ht _ ih =>
    cases h' with
    | wait hm => exact hm.elim
    | advance ht' h' =>
      cases ht.symm.trans ht'
      exact ih h'
    | finish ht' => cases ht.symm.trans ht'
  | finish ht _ ih =>
    cases h' with
    | wait hm => exact hm.elim
    | advance ht' => cases ht.symm.trans ht'
    | finish ht' h' =>
      cases ht.symm.trans ht'
      exact congrArg _ (ih h')

theorem Hold.unique (h : Hold objects w ts as) (h' : Hold objects w ts bs) : as = bs := by
  obtain ⟨_, h⟩ := h
  obtain ⟨_, h'⟩ := h'
  exact h.unique h'

theorem Hold.advance {u : Stage ρ} (ht : t.advance objects w = .ok (.inr u))
    (h : Hold objects (w.step (.own (t.effect objects))) (u :: ts) as) :
    Hold objects w (t :: ts) as := by
  obtain ⟨steps, h⟩ := h
  exact ⟨_, .advance ht h⟩

theorem Hold.finish {a : Argument} (ht : t.advance objects w = .ok (.inl a))
    (h : Hold objects (w.step (.own (t.effect objects))) ts as) :
    Hold objects w (t :: ts) (a :: as) := by
  obtain ⟨steps, h⟩ := h
  exact ⟨_, .finish ht h⟩

/-- What may happen does not matter for what is gathered. -/
theorem Gathers.freely {may : List (Stage ρ) → World σ → Step σ → Prop} {steps : List (Step σ)}
    (h : Gathers objects may ts w steps as) : Gathers objects freely ts w steps as := by
  induction h with
  | done => exact .done
  | wait _ _ ih => exact .wait trivial ih
  | advance ht _ ih => exact .advance ht ih
  | finish ht _ ih => exact .finish ht ih

/-- Arguments that nothing else touches are gathered as they were held in the beginning. -/
theorem Gathers.held {steps : List (Step σ)} (h : Gathers objects (sparing objects) ts w steps as) :
    Hold objects w ts as := by
  induction h with
  | done => exact ⟨[], .done⟩
  | wait hm _ ih => exact hm _ ih
  | advance ht _ ih => exact ih.advance ht
  | finish ht _ ih => exact ih.finish ht

/-! ### Lists -/

variable (objects)

/-- Every object looks the same in two worlds. -/
def Alike (w w' : World σ) : Prop := ∀ x, w'.find objects x = w.find objects x

/-- These objects are drawn from an iterator before it is at its end, which changes no object. -/
inductive Yields (it : ρ) : World σ → List (ρ ⊕ Int) → Prop
  | nil {w : World σ} (h : (objects.next w.memory it).1 = .ok none)
    (hsame : Alike objects w (w.step (.own fun m => (objects.next m it).2))) : Yields it w []
  | cons {w : World σ} {x : ρ ⊕ Int} {xs : List (ρ ⊕ Int)}
    (h : (objects.next w.memory it).1 = .ok (some x))
    (hsame : Alike objects w (w.step (.own fun m => (objects.next m it).2)))
    (hrest : Yields it (w.step (.own fun m => (objects.next m it).2)) xs) : Yields it w (x :: xs)

/-- A sequence that has the same elements whenever it is iterated over, which changes no object. -/
def IsList (r : ρ) (xs : List (ρ ⊕ Int)) : Prop :=
  ∀ w : World σ, ∃ it, (objects.iterate w.memory r).1 = .ok it ∧
    Alike objects w (w.step (.own fun m => (objects.iterate m r).2)) ∧
    Yields objects it (w.step (.own fun m => (objects.iterate m r).2)) xs

/-- The bytes that an object holds at the moment. -/
def HoldsNow (w : World σ) (x : ρ ⊕ Int) (b : Bytes) : Prop :=
  ∃ a, w.find objects x = .ok a ∧ a.Holds b

/-- What a single argument holds, which is an object or a list of objects. -/
inductive HoldsAs (w : World σ) : Stage ρ → Argument → Prop
  | copy {how : Argument → Except Failure Bytes} {x : ρ ⊕ Int} {b : Bytes}
    (h : (w.find objects x).bind how = .ok b) : HoldsAs w (.copy how x) (.octets b)
  | list {r : ρ} {xs : List (ρ ⊕ Int)} {bs : List Bytes} (hr : IsList objects r xs)
    (h : List.Forall₂ (HoldsNow objects w) xs bs) : HoldsAs w (.copyAll (.inl r)) (.copied bs)

variable {objects} {w' : World σ} {it : ρ} {xs : List (ρ ⊕ Int)} {held : List Bytes}

theorem HoldsNow.of_alike {x : ρ ⊕ Int} {b : Bytes} (hs : Alike objects w w')
    (h : HoldsNow objects w x b) : HoldsNow objects w' x b := by
  rwa [HoldsNow, hs x]

theorem HoldsAs.of_alike {a : Argument} (hs : Alike objects w w') (h : HoldsAs objects w t a) :
    HoldsAs objects w' t a := by
  cases h with
  | copy h => exact .copy (by rwa [hs])
  | list hr h => exact .list hr (h.imp fun _ _ hx => hx.of_alike hs)

theorem advance_drawn {x : ρ ⊕ Int} {b : Bytes} (h : HoldsNow objects w x b)
    (taken : List Bytes) : (Stage.drawn it taken x).advance objects w =
      .ok (.inr (.rest it (taken ++ [b]))) := by
  obtain ⟨a, ha, hb⟩ := h
  rw [Stage.advance, ha, Except.bind, Argument.copyIn_eq_ok_iff.mpr hb]
  rfl

/-- The rest of an iterator holds what the objects hold that are drawn from it. -/
theorem Yields.hold (hy : Yields objects it w xs)
    (hb : List.Forall₂ (HoldsNow objects w) xs held) (taken : List Bytes)
    (hts : ∀ w', Alike objects w w' → Hold objects w' ts as) :
    Hold objects w (.rest it taken :: ts) (.copied (taken ++ held) :: as) := by
  induction hy generalizing held taken with
  | nil h hsame =>
    cases hb
    rw [List.append_nil]
    exact .finish (by rw [Stage.advance, h]; rfl) (hts _ hsame)
  | @cons w x xs h hsame _ ih =>
    obtain ⟨b, bs, hx, hxs, rfl⟩ := List.forall₂_cons_left_iff.mp hb
    -- the object is drawn, and copied as it was before
    refine .advance (u := .drawn it taken x) (by rw [Stage.advance, h]; rfl) ?_
    refine .advance (advance_drawn (hx.of_alike hsame) taken) ?_
    rw [show taken ++ b :: bs = taken ++ [b] ++ bs by simp]
    exact ih (hxs.imp fun _ _ hy => hy.of_alike hsame) _
      fun w' hw => hts w' fun y => (hw y).trans (hsame y)

/-- An object that is its own iterator, and once it is at its end stays there. -/
structure IsIterator (objects : Objects σ ρ) (it : ρ) : Prop where
  iterate : ∀ m, objects.iterate m it = (.ok it, m)
  next : ∀ m, (objects.next m it).1 = .ok none →
    (objects.next (objects.next m it).2 it).1 = .ok none

/-- How far a command has come with an iterator that it was given. -/
inductive Draws (it : ρ) : Stage ρ → Prop
  | copyAll : Draws it (.copyAll (.inl it))
  | rest (taken : List Bytes) : Draws it (.rest it taken)
  | drawn (taken : List Bytes) (x : ρ ⊕ Int) : Draws it (.drawn it taken x)

/-- The command comes on with the iterator, until it is at its end. -/
theorem Draws.cases {r : Argument ⊕ Stage ρ} (h : Draws it t) (hit : IsIterator objects it)
    (hr : t.advance objects w = .ok r) : (∃ t', r = .inr t' ∧ Draws it t') ∨
      ∃ a, r = .inl a ∧ (objects.next (t.effect objects w.memory) it).1 = .ok none := by
  cases h with
  | copyAll =>
    obtain ⟨it', hi, rfl⟩ := Except.map_eq_ok_iff.mp hr
    rw [hit.iterate] at hi
    cases hi
    exact Or.inl ⟨_, rfl, .rest []⟩
  | rest taken =>
    obtain ⟨found, hn, rfl⟩ := Except.map_eq_ok_iff.mp hr
    cases found with
    | some x => exact Or.inl ⟨_, rfl, .drawn taken x⟩
    | none => exact Or.inr ⟨_, rfl, hit.next _ hn⟩
  | drawn taken x =>
    obtain ⟨b, -, rfl⟩ := Except.map_eq_ok_iff.mp hr
    exact Or.inl ⟨_, rfl, .rest _⟩

/-- At its end an iterator holds nothing. -/
theorem hold_nothing (hit : IsIterator objects it)
    (hend : (objects.next w.memory it).1 = .ok none) :
    Hold objects w [.copyAll (.inl it)] [Argument.copied []] := by
  refine .advance (u := .rest it []) (by rw [Stage.advance, hit.iterate]; rfl) ?_
  refine .finish ?_ ⟨[], .done⟩
  have hm : (w.step (.own (Stage.effect objects (.copyAll (.inl it))))).memory = w.memory := by
    simp only [step, Stage.effect, hit.iterate]
  rw [Stage.advance, hm, hend]
  rfl

theorem Gathers.again {steps : List (Step σ)} (hit : IsIterator objects it) (hd : Draws it t)
    (h : Gathers objects alone [t, .copyAll (.inl it)] w steps as) :
    ∃ a, as = [a, Argument.copied []] := by
  generalize hts : [t, .copyAll (.inl it)] = ts at h
  induction h generalizing t with
  | done => cases hts
  | wait hm => exact hm.elim
  | advance ht _ ih =>
    cases hts
    obtain ⟨t', ht', hd'⟩ | ⟨a, ha, -⟩ := hd.cases hit ht
    · cases ht'
      exact ih hd' rfl
    · cases ha
  | @finish _ _ _ _ a _ ht h =>
    cases hts
    obtain ⟨t', ht', -⟩ | ⟨-, -, hend⟩ := hd.cases hit ht
    · cases ht'
    · exact ⟨a, congrArg _ (Hold.unique ⟨_, h⟩ (hold_nothing hit hend))⟩

/-- An iterator that is given for two arguments holds nothing for the second. -/
theorem hold_again (hit : IsIterator objects it)
    (h : Hold objects w [.copyAll (.inl it), .copyAll (.inl it)] as) :
    ∃ a, as = [a, Argument.copied []] := by
  obtain ⟨_, h⟩ := h
  exact h.again hit .copyAll

end World

/-! ### A desk -/

/-- A desk, and what is left of the iterators over lists of what is on it. -/
structure Shelf where
  desk : Desk
  left : List (List String)

namespace Shelf

/-- Something to be passed: what has a name at the desk, a list of names, or an iterator. -/
inductive Thing
  | named (name : String)
  | list (names : List String)
  | iterator (k : Nat)

/-- What a name means. -/
def named (s : Shelf) (name : String) : Except Failure Argument :=
  (s.desk.object name).map s.desk.store.argument

/-- One more iterator. -/
def iterator (s : Shelf) (names : List String) : Except Failure Thing × Shelf :=
  (.ok (.iterator s.left.length), { s with left := s.left ++ [names] })

/-- How all this behaves. What has a name at the desk is refused as a sequence, unless it has no
elements. -/
def objects : Objects Shelf Thing where
  look s
    | .named name => s.named name
    | .list _ => .error (.notBytes "list")
    | .iterator _ => .error (.notBytes "list_iterator")
  iterate s
    | .named name =>
      match (s.named name).bind Argument.copyInAll with
      | .ok _ => s.iterator []
      | .error f => (.error f, s)
    | .list names => s.iterator names
    | .iterator k => (.ok (.iterator k), s)
  next s
    | .iterator k =>
      match s.left[k]? with
      | some (name :: names) =>
        (.ok (some (.inl (.named name))), { s with left := s.left.set k names })
      | _ => (.ok none, s)
    | .named _ => (.error (.notIterable "object"), s)
    | .list _ => (.error (.notIterable "list"), s)

theorem isIterator (k : Nat) : World.IsIterator objects (.iterator k) where
  iterate _ := rfl
  next s h := by
    simp only [objects] at h ⊢
    cases hl : s.left[k]? with
    | none => simp only [hl]
    | some names =>
      cases names with
      | nil => simp only [hl]
      | cons name names => rw [hl] at h; cases h

/-- A command with one iterator for the offers and the tasks launches no task. -/
theorem hold_launchTasks {w : World Shelf} {k : Nat} {as : List Argument}
    (h : World.Hold objects w (Order.stages .direct
      (.launchTasks (.inl (.iterator k)) (.inl (.iterator k)) none)) as) :
    ∃ offerIds, as = [offerIds, .copied []] :=
  World.hold_again (isIterator k) h

end Shelf

end ClusterLink
