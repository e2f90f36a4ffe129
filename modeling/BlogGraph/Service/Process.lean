import BlogGraph.Service.Application
import Mathlib.Logic.Function.Basic

/-!
# Processes with several applications

A process may create several applications, each over a store of its own or several over one.  An
application keeps the settings and the store that it was created with.  What all applications of a
process share is the journal.  Identifiers of records are made at random, so each store may be
taken to have its own run of them.

An application is created by `create_app`, and its store goes to `create_graphql_router`.
-/

namespace BlogGraph.Service

/-- What an application was created with: the settings, and which store it serves. -/
structure Site (σ : Type) where
  settings : Settings
  store : σ

/-- A process: the blogs that its applications serve, and the journal that they share. -/
structure Process (σ : Type) where
  blogs : σ → Blog
  journal : Log.Journal

namespace Process

variable {σ : Type}

/-- An application of the process as it stands. -/
def application (p : Process σ) (s : Site σ) : Application :=
  ⟨s.settings, p.blogs s.store, p.journal⟩

variable [DecidableEq σ]

/-- The process with the blog and the journal that an application was left with. -/
def keep (p : Process σ) (s : Site σ) (a : Application) : Process σ :=
  ⟨Function.update p.blogs s.store a.blog, a.journal⟩

/-- Handles a request to one of the applications. -/
def handle (identifiers : Log.Identifiers) (p : Process σ) (s : Site σ) (r : Http.Request) :
    Handled :=
  (p.application s).handle identifiers r

/-- The process after a request to one of the applications. -/
def next (identifiers : Log.Identifiers) (p : Process σ) (s : Site σ) (r : Http.Request) :
    Process σ :=
  p.keep s (p.handle identifiers s r).application

/-- Handles requests one after the other, each to one of the applications. -/
def handleAll (identifiers : Log.Identifiers) (p : Process σ) :
    List (Site σ × Http.Request) → List (Site σ × Handled)
  | [] => []
  | (s, r) :: rest =>
    (s, p.handle identifiers s r) :: handleAll identifiers (p.next identifiers s r) rest

/-- The process after requests one after the other, each to one of the applications. -/
def after (identifiers : Log.Identifiers) (p : Process σ) (calls : List (Site σ × Http.Request)) :
    Process σ :=
  calls.foldl (fun p c => p.next identifiers c.1 c.2) p

end Process

end BlogGraph.Service
