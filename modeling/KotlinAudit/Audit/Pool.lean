/-! Tasks that a number of workers share. Free workers take waiting tasks in order, and which of the
tasks under way ends next is not for the pool to say. Every task has its number, by which results are
put back into the order of the tasks. -/
namespace KotlinAudit.Audit

structure Pool (α β : Type) where
  waiting : List (Nat × α)
  running : List (Nat × α)
  /-- The results with the numbers of their tasks, in the order in which the tasks have ended. -/
  finished : List (Nat × β)

namespace Pool

variable {α β : Type}

def ofTasks (tasks : List α) : Pool α β := ⟨tasks.zipIdx.map Prod.swap, [], []⟩

/-- Workers that have nothing to do take the next tasks. -/
def fill (workers : Nat) (pool : Pool α β) : Pool α β :=
  let free := workers - pool.running.length
  { pool with
    waiting := pool.waiting.drop free
    running := pool.running ++ pool.waiting.take free }

/-- The task at a place among those under way ends. -/
def finish (work : α → β) (turn : Nat) (pool : Pool α β) : Pool α β :=
  let place := turn % pool.running.length
  match pool.running[place]? with
  | none => pool
  | some (number, task) =>
    { pool with
      running := pool.running.eraseIdx place
      finished := pool.finished ++ [(number, work task)] }

def step (workers : Nat) (work : α → β) (turn : Nat) (pool : Pool α β) : Pool α β :=
  (pool.fill workers).finish work turn

/-- Lets some tasks end, each at its turn; where no turn is given the first one under way ends. -/
def run (workers : Nat) (work : α → β) : Nat → List Nat → Pool α β → Pool α β
  | 0, _, pool => pool
  | count + 1, turns, pool =>
    run workers work count turns.tail (pool.step workers work (turns.headD 0))

def results (count : Nat) (pool : Pool α β) : List β :=
  (List.range count).filterMap fun number => pool.finished.lookup number

end Pool
end KotlinAudit.Audit
