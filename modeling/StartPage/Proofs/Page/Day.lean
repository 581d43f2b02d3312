import Mathlib.Algebra.GroupWithZero.Nat
import StartPage.Proofs.Clock
import StartPage.Proofs.Greeting
import StartPage.Proofs.Page.History

/-! How a page greets in the course of the day, when its clock is moved forward and drawn in turn.
Each frame tells the second of the day that has been reached, counted without a bound and less whole
days, so within one day the greetings come in their order. -/
namespace StartPage.PageRun

/-- The frame that is drawn, if the answer is that of a tick. -/
def Answer.frame? : Answer → Option ClockFrame
  | .drawn frame => some frame
  | .moved _ | .pressed _ | .left _ | .recalled _ => none

/-- The frames that several steps draw in turn. -/
def frames (r : PageRun) (steps : List Step) : List ClockFrame :=
  (r.performAll steps).filterMap (·.answer.frame?)

/-- Move the clock forward several times, with a tick after each. -/
def walk (advances : List UInt32) : List Step :=
  advances.flatMap fun secs => [.clock (.advance secs), .tick]

/-- The sums that several advances reach in turn. They have no bound. -/
def elapsed (second : Nat) : List UInt32 → List Nat
  | [] => []
  | secs :: advances => (second + secs.toNat) :: elapsed (second + secs.toNat) advances

theorem length_elapsed (second : Nat) (advances : List UInt32) :
    (elapsed second advances).length = advances.length := by
  induction advances generalizing second with
  | nil => rfl
  | cons secs advances ih => exact congrArg Nat.succ (ih _)

theorem le_of_mem_elapsed {second : Nat} {advances : List UInt32} {sum : Nat}
    (h : sum ∈ elapsed second advances) :
    second ≤ sum := by
  induction advances generalizing second with
  | nil => cases h
  | cons secs advances ih =>
      rcases List.mem_cons.mp h with rfl | h
      · exact Nat.le_add_right ..
      · exact Nat.le_trans (Nat.le_add_right ..) (ih h)

theorem pairwise_elapsed (second : Nat) (advances : List UInt32) :
    (elapsed second advances).Pairwise (· ≤ ·) := by
  induction advances generalizing second with
  | nil => exact .nil
  | cons secs advances ih => exact .cons (fun sum => le_of_mem_elapsed) (ih _)

theorem getElem?_elapsed (second : Nat) (before : List UInt32) (secs : UInt32)
    (later : List UInt32) : (elapsed second (before ++ secs :: later))[before.length]? =
      some (second + ((before ++ [secs]).map UInt32.toNat).sum) := by
  induction before generalizing second with
  | nil => rfl
  | cons first before ih =>
      rw [List.cons_append, elapsed, List.length_cons, List.getElem?_cons_succ, ih,
        List.cons_append, List.map_cons, List.sum_cons, Nat.add_assoc]

/-- The run after one advance and the tick that follows it. -/
def onward (r : PageRun) (secs : UInt32) : PageRun := r.after [.clock (.advance secs), .tick]

theorem frames_walk_cons (r : PageRun) (secs : UInt32) (advances : List UInt32) :
    r.frames (walk (secs :: advances)) =
      ClockFrame.render (r.onward secs).clock.now r.page.displayName ::
        (r.onward secs).frames (walk advances) := rfl

theorem length_frames_walk (r : PageRun) (advances : List UInt32) :
    (r.frames (walk advances)).length = advances.length := by
  induction advances generalizing r with
  | nil => rfl
  | cons secs advances ih => rw [frames_walk_cons, List.length_cons, ih, List.length_cons]

theorem total_onward {r : PageRun} {second : Nat} (h : r.clock.now.total = second % 86400)
    (secs : UInt32) :
    (r.onward secs).clock.now.total = (second + secs.toNat) % 86400 := by
  have hAdvance := r.clock.total_after (.advance secs)
  calc (r.onward secs).clock.now.total
      _ = (r.clock.now.total + secs.toNat) % 86400 := hAdvance
      _ = (second + secs.toNat) % 86400 := by rw [h, Nat.mod_add_mod]

/-- Every frame of a walk tells the second that the clock has reached by then. -/
theorem tells_of_mem {r : PageRun} {second : Nat} (h : r.clock.now.total = second % 86400)
    {advances : List UInt32} {p : Nat × ClockFrame}
    (hMem : p ∈ (elapsed second advances).zip (r.frames (walk advances))) :
    p.2.Tells (p.1 % 86400) := by
  induction advances generalizing r second with
  | nil => cases hMem
  | cons secs advances ih =>
      have hReached := total_onward h secs
      rw [frames_walk_cons, elapsed, List.zip_cons_cons] at hMem
      rcases List.mem_cons.mp hMem with rfl | hMem
      · have hTells := ClockFrame.tells_render (r.onward secs).clock.now r.page.displayName
        rwa [hReached] at hTells
      · exact ih hReached hMem

/-- Frames that tell the seconds of one day, in their order, never go back in their greetings. -/
theorem pairwise_greetings {stretch : List (Nat × ClockFrame)}
    (hOrder : (stretch.map Prod.fst).Pairwise (· ≤ ·))
    (hTells : ∀ p ∈ stretch, p.2.Tells (p.1 % 86400))
    (hDay : ∀ p ∈ stretch, ∀ q ∈ stretch, p.1 / 86400 = q.1 / 86400) :
    (stretch.map (·.2.greeting)).Pairwise fun g g' => (compare g g').isLE := by
  rw [List.pairwise_map] at hOrder ⊢
  refine hOrder.imp_of_mem fun {p q} hP hQ hLe => ?_
  have hSame := hDay p hP q hQ
  have hSecond : p.1 % 86400 ≤ q.1 % 86400 := by omega
  exact (hTells p hP).isLE (hTells q hQ) hSecond

/-- A clock is moved forward from any start, with a tick after each advance. Then each frame greets
and writes the second of the day that the start and all advances so far add up to, less whole days.
In a stretch of ticks that does not cross midnight the greetings never go back, and each of them has
at most one block. -/
theorem greetings_of_day (page : Page) (start : LocalTime) (surface : Surface) (history : History)
    (advances : List UInt32) :
    let r : PageRun := { page, clock := ⟨start⟩, surface, history }
    let told := (elapsed start.seconds.toNat advances).zip (r.frames (walk advances))
    (r.frames (walk advances)).length = advances.length ∧
    (∀ before secs later, advances = before ++ secs :: later →
      let sum := start.seconds.toNat + ((before ++ [secs]).map UInt32.toNat).sum
      ∃ frame, (r.frames (walk advances))[before.length]? = some frame ∧
        told[before.length]? = some (sum, frame) ∧ frame.Tells (sum % 86400)) ∧
    ∀ stretch, stretch <:+: told → (∀ p ∈ stretch, ∀ q ∈ stretch, p.1 / 86400 = q.1 / 86400) →
      let greetings := stretch.map (·.2.greeting)
      greetings.Pairwise (fun g g' => (compare g g').isLE) ∧
      ∀ g, ∃ before count behind, greetings = before ++ List.replicate count g ++ behind ∧
        g ∉ before ∧ g ∉ behind := by
  intro r told
  have hLength := r.length_frames_walk advances
  have hStart : r.clock.now.total = start.seconds.toNat % 86400 := by
    rw [start.countsExactly.seconds, Nat.mod_eq_of_lt start.total_lt]
  have hTells {p : Nat × ClockFrame} (hMem : p ∈ told) : p.2.Tells (p.1 % 86400) :=
    tells_of_mem hStart hMem
  refine ⟨hLength, fun before secs later hSplit => ?_, fun stretch hStretch hDay => ?_⟩
  · intro sum
    have hWithin : before.length < (r.frames (walk advances)).length := by
      rw [hLength, hSplit, List.length_append, List.length_cons]
      omega
    obtain ⟨frame, hFrame⟩ : ∃ frame, (r.frames (walk advances))[before.length]? = some frame :=
      ⟨_, List.getElem?_eq_getElem hWithin⟩
    have hSum : (elapsed start.seconds.toNat advances)[before.length]? = some sum :=
      hSplit ▸ getElem?_elapsed start.seconds.toNat before secs later
    have hTold : told[before.length]? = some (sum, frame) := by
      rw [List.getElem?_zip_eq_some]
      exact ⟨hSum, hFrame⟩
    exact ⟨frame, hFrame, hTold, hTells (List.mem_of_getElem? hTold)⟩
  · intro greetings
    have hSums : told.map Prod.fst = elapsed start.seconds.toNat advances :=
      List.map_fst_zip (Nat.le_of_eq ((length_elapsed ..).trans hLength.symm))
    have hOrder : (stretch.map Prod.fst).Pairwise (· ≤ ·) := by
      refine List.Pairwise.sublist (hStretch.sublist.map Prod.fst) ?_
      rw [hSums]
      exact pairwise_elapsed ..
    have hForward := pairwise_greetings hOrder (fun p hMem => hTells (hStretch.subset hMem)) hDay
    exact ⟨hForward, Greeting.exists_block hForward⟩

end StartPage.PageRun
