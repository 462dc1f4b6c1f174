import BuildScript.FunctionSet.Body
import BuildScript.Proofs.Dispatch.History
import BuildScript.Proofs.Session.Frame

/-!
Dispatchers that work side by side, over one registry and one project or over several. A call reads
what they share and the sets of its own dispatcher (`Alike`), and writes those sets, so the calls of
one dispatcher are nothing to another. Main statement: `replies_eq_alone`, that in every interleaving
of requests a dispatcher is given the replies that it is given if the requests of all others are left
out, failures and errors included.
-/

namespace BuildScript

open SessionM

namespace SessionM

variable {α : Type}

/-- An operation answers without looking at the session, and leaves it as it is. -/
def Heedless (x : SessionM α) : Prop := ∃ o, ∀ s, x.run.run s = (o, s)

theorem heedless_pure (a : α) : Heedless (pure a : SessionM α) := ⟨.ok a, fun _ => rfl⟩

theorem heedless_throw (e : Raised) : Heedless (throw e : SessionM α) := ⟨.error e, fun _ => rfl⟩

end SessionM

namespace Session

theorem heedless_answerOf (outcome : Except Escape CallResult) :
    Heedless (answerOf outcome) := by
  unfold answerOf
  split
  · exact heedless_pure _
  · exact heedless_throw _

theorem heedless_valueOf {α : Type} (o : Except (Escape ⊕ Fault) α) : Heedless (valueOf o) := by
  unfold valueOf
  split
  · exact heedless_pure _
  · exact heedless_throw _
  · exact heedless_throw _

/-! ## Requests -/

/-- What is asked of a dispatcher: a call for its result, for its value, or calls for their values. -/
inductive Request where
  | invoke (c : Call)
  | call (c : Call)
  | callAll (cs : List Call)

/-- What a dispatcher gives back. -/
inductive Reply where
  | result (r : CallResult)
  | value (v : Value)
  | values (vs : List Value)

namespace Request

/-- What the dispatcher of a name gives back for a request, or what is raised. -/
def reply (s : Session) (name : String) : Request → Except Raised Reply
  | invoke c => ((Session.invoke name c).answer s).map .result
  | call c => ((Session.call name c).answer s).map .value
  | callAll cs => ((Session.callAll name cs).answer s).map .values

/-- The session after a request, whether something is given back or raised. -/
def after (s : Session) (name : String) : Request → Session
  | invoke c => (Session.invoke name c).after s
  | call c => (Session.call name c).after s
  | callAll cs => (Session.callAll name cs).after s

end Request

/-- The replies to requests that are made one after the other, each with the name of its
dispatcher. -/
def replies (s : Session) : List (String × Request) → List (String × Except Raised Reply)
  | [] => []
  | (name, q) :: rest => (name, q.reply s name) :: (q.after s name).replies rest

/-- The session after requests. -/
def afterRequests (s : Session) : List (String × Request) → Session
  | [] => s
  | (name, q) :: rest => (q.after s name).afterRequests rest

/-! ## Sessions that are alike for a dispatcher -/

/-- What dispatchers share: the host, the registries, the projects and the dictionaries. -/
def shared (s : Session) : Host × Registry × Shelf Registry × Shelf Project × Shelf Properties :=
  (s.host, s.default.registry, s.registries, s.projects, s.dictionaries)

/-- Two sessions are alike for a dispatcher: what is shared is the same in both, and so is the
dispatcher with its sets. Other dispatchers and what has happened may differ. -/
structure Alike (name : String) (s s' : Session) : Prop where
  shared : s'.shared = s.shared
  dispatcher : s'.dispatchers.get? name = s.dispatchers.get? name

theorem registryOf_of_shared {s s' : Session} (h : s'.shared = s.shared) (ref : RegistryRef) :
    s'.registryOf ref = s.registryOf ref := by
  simp only [shared, Prod.mk.injEq] at h
  obtain ⟨-, hdefault, hregistries, -, -⟩ := h
  cases ref with
  | default => exact hdefault
  | own handle => rw [registryOf, registryOf, hregistries]

theorem sceneOf_of_shared {s s' : Session} (h : s'.shared = s.shared) (d : Dispatcher)
    (p : Project) : s'.sceneOf d p = s.sceneOf d p := by
  simp only [shared, Prod.mk.injEq] at h
  obtain ⟨hhost, -, -, -, hdictionaries⟩ := h
  rw [sceneOf, sceneOf, hhost, hdictionaries]

theorem shared_settled {ε α : Type} (s : Session) (name : String) (d : Dispatcher)
    (r : Dispatched ε α) : (s.settled name d r).shared = s.shared := rfl

namespace Alike

variable {name : String} {s s' : Session}

theorem refl (name : String) (s : Session) : Alike name s s := ⟨rfl, rfl⟩

theorem symm (h : Alike name s s') : Alike name s' s := ⟨h.shared.symm, h.dispatcher.symm⟩

theorem trans {s'' : Session} (h : Alike name s s') (h' : Alike name s' s'') :
    Alike name s s'' := ⟨h'.shared.trans h.shared, h'.dispatcher.trans h.dispatcher⟩

theorem dispatches (h : Alike name s s') {d : Dispatcher} {p : Project}
    (hd : s.Dispatches name d p) : s'.Dispatches name d p := by
  have hprojects : s'.projects = s.projects := by
    have hshared := h.shared
    simp only [Session.shared, Prod.mk.injEq] at hshared
    exact hshared.2.2.2.1
  exact ⟨h.dispatcher.trans hd.dispatcher, by rw [hprojects]; exact hd.project⟩

/-- To come to the same keeps two sessions alike. -/
theorem settled (h : Alike name s s') {ε α : Type} (d : Dispatcher) (r : Dispatched ε α) :
    Alike name (s.settled name d r) (s'.settled name d r) := by
  refine ⟨by rw [shared_settled, shared_settled, h.shared], ?_⟩
  show (s'.dispatchers.put name _).get? name = (s.dispatchers.put name _).get? name
  rw [Table.get?_put, if_pos rfl, Table.get?_put, if_pos rfl]

/-- What another dispatcher comes to leaves a session alike. -/
theorem settled_of_ne {other : String} (hne : name ≠ other) (s : Session) {ε α : Type}
    (d : Dispatcher) (r : Dispatched ε α) : Alike name s (s.settled other d r) := by
  refine ⟨shared_settled .., ?_⟩
  show (s.dispatchers.put other _).get? name = s.dispatchers.get? name
  rw [Table.get?_put, if_neg hne]

end Alike

section Employ

variable {ε α β : Type} {name : String} {s s' : Session}
  (use : Registry → Scene → Bindings → Dispatched ε α) {next : Except ε α → SessionM β}

/-- A dispatcher that is employed in two sessions alike answers the same, and they stay alike. -/
theorem Alike.employ (h : Alike name s s') (hnext : ∀ o, Heedless (next o)) :
    (employ use (fun _ => next) name).answer s' = (employ use (fun _ => next) name).answer s ∧
      Alike name ((employ use (fun _ => next) name).after s)
        ((employ use (fun _ => next) name).after s') := by
  unfold SessionM.answer SessionM.after
  rcases s.dispatches_or name with ⟨d, p, hd⟩ | hnone
  · obtain ⟨o, ho⟩ := hnext (use (s.registryOf d.registry) (s.sceneOf d p) d.bindings).outcome
    rw [hd.run_employ, (h.dispatches hd).run_employ, registryOf_of_shared h.shared,
      sceneOf_of_shared h.shared, ho, ho]
    exact ⟨rfl, h.settled _ _⟩
  · rw [run_employ_of_none _ _ hnone,
      run_employ_of_none _ _ fun d p hd => hnone d p (h.symm.dispatches hd)]
    exact ⟨rfl, h⟩

/-- To employ a dispatcher changes nothing that it shares. -/
theorem shared_after_employ (hnext : ∀ o, Heedless (next o)) (s : Session) (name : String) :
    ((Session.employ use (fun _ => next) name).after s).shared = s.shared := by
  unfold SessionM.after
  rcases s.dispatches_or name with ⟨d, p, hd⟩ | hnone
  · obtain ⟨o, ho⟩ := hnext (use (s.registryOf d.registry) (s.sceneOf d p) d.bindings).outcome
    rw [hd.run_employ, ho]
    exact shared_settled ..
  · rw [run_employ_of_none _ _ hnone]

/-- To employ another dispatcher leaves a session alike. -/
theorem alike_after_employ {other : String} (hne : name ≠ other)
    (hnext : ∀ o, Heedless (next o)) (s : Session) :
    Alike name s ((Session.employ use (fun _ => next) other).after s) := by
  unfold SessionM.after
  rcases s.dispatches_or other with ⟨d, p, hd⟩ | hnone
  · obtain ⟨o, ho⟩ := hnext (use (s.registryOf d.registry) (s.sceneOf d p) d.bindings).outcome
    rw [hd.run_employ, ho]
    exact .settled_of_ne hne s d _
  · rw [run_employ_of_none _ _ hnone]
    exact .refl name s

end Employ

/-! ## One request -/

/-- Whatever is asked, the dispatcher is employed, and what that comes to is given back. -/
theorem Request.exists_employ (q : Request) :
    ∃ (ε α β : Type) (use : Registry → Scene → Bindings → Dispatched ε α)
      (next : Except ε α → SessionM β) (give : β → Reply),
      (∀ o, Heedless (next o)) ∧ ∀ s name,
        q.reply s name = ((employ use (fun _ => next) name).answer s).map give ∧
          q.after s name = (employ use (fun _ => next) name).after s := by
  cases q with
  | invoke c =>
    exact ⟨_, _, _, fun r scene bs => BuildScript.invoke r scene bs c, answerOf, .result,
      heedless_answerOf, fun s name => ⟨by rw [← invoke_eq_employ]; rfl, rfl⟩⟩
  | call c =>
    exact ⟨_, _, _, fun r scene bs => BuildScript.call r scene bs c, valueOf, .value,
      heedless_valueOf, fun s name => ⟨by rw [← call_eq_employ]; rfl, rfl⟩⟩
  | callAll cs =>
    exact ⟨_, _, _, fun r scene bs => BuildScript.callAll r scene bs cs, valueOf, .values,
      heedless_valueOf, fun s name => ⟨by rw [← callAll_eq_employ]; rfl, rfl⟩⟩

section Step

variable {name : String} {s s' : Session}

/-- A request has the same reply in two sessions that are alike for its dispatcher, and leaves them
alike. -/
theorem Alike.request (h : Alike name s s') (q : Request) :
    q.reply s' name = q.reply s name ∧ Alike name (q.after s name) (q.after s' name) := by
  obtain ⟨ε, α, β, use, next, give, hnext, hq⟩ := q.exists_employ
  obtain ⟨hanswer, hafter⟩ := h.employ use hnext
  rw [(hq s name).1, (hq s' name).1, (hq s name).2, (hq s' name).2, hanswer]
  exact ⟨rfl, hafter⟩

/-- A request to another dispatcher leaves a session alike. -/
theorem alike_after_request {other : String} (hne : name ≠ other) (q : Request) (s : Session) :
    Alike name s (q.after s other) := by
  obtain ⟨ε, α, β, use, next, give, hnext, hq⟩ := q.exists_employ
  rw [(hq s other).2]
  exact alike_after_employ use hne hnext s

end Step

/-! ## Interleavings -/

/-- The requests to a dispatcher, left alone, have the replies that they have among those to others,
from any session that is alike for it. -/
theorem Alike.replies {name : String} {s s' : Session} (h : Alike name s s')
    (requests : List (String × Request)) :
    (s.replies requests).filter (fun r => r.1 = name) =
        s'.replies (requests.filter fun r => r.1 = name) ∧
      Alike name (s.afterRequests requests)
        (s'.afterRequests (requests.filter fun r => r.1 = name)) := by
  induction requests generalizing s s' with
  | nil => exact ⟨rfl, h⟩
  | cons request rest ih =>
    obtain ⟨other, q⟩ := request
    by_cases hname : other = name
    · subst hname
      obtain ⟨hreply, hafter⟩ := h.request q
      obtain ⟨hrest, halike⟩ := ih hafter
      rw [List.filter_cons_of_pos (by simp), Session.replies, Session.replies,
        List.filter_cons_of_pos (by simp), hrest, hreply]
      exact ⟨rfl, halike⟩
    · obtain ⟨hrest, halike⟩ := ih ((alike_after_request (Ne.symm hname) q s).symm.trans h)
      rw [List.filter_cons_of_neg (by simpa using hname), Session.replies,
        List.filter_cons_of_neg (by simpa using hname)]
      exact ⟨hrest, halike⟩

/-- Requests change nothing of what dispatchers share. -/
theorem shared_afterRequests (s : Session) (requests : List (String × Request)) :
    (s.afterRequests requests).shared = s.shared := by
  induction requests generalizing s with
  | nil => rfl
  | cons request rest ih =>
    obtain ⟨name, q⟩ := request
    obtain ⟨ε, α, β, use, next, give, hnext, hq⟩ := q.exists_employ
    rw [afterRequests, ih, (hq s name).2, shared_after_employ use hnext]

/-- In every interleaving of requests each dispatcher is given the replies that it is given if the
requests to all others are left out. It then has the sets that it has in either case, and what the
dispatchers share is as it was. -/
theorem replies_eq_alone (s : Session) (name : String) (requests : List (String × Request)) :
    (s.replies requests).filter (fun r => r.1 = name) =
        s.replies (requests.filter fun r => r.1 = name) ∧
      (s.afterRequests requests).dispatchers.get? name =
        (s.afterRequests (requests.filter fun r => r.1 = name)).dispatchers.get? name ∧
      (s.afterRequests requests).shared = s.shared := by
  obtain ⟨hreplies, halike⟩ := (Alike.refl name s).replies requests
  exact ⟨hreplies, halike.dispatcher.symm, shared_afterRequests s requests⟩

/-- A set with one function, which counts its uses. -/
def countingPlugin : Plugin :=
  { id := 0, space := "n", description := ""
    descriptors := [{ space := "n", name := "f", method := "f", params := [], returns := .int }]
    cls :=
      { id := 0, name := "Counting", file := .ok "", space := .text "n", doc := none
        entries := [{ name := .text "f", method := "f", returns := .type .int }]
        attributes := Table.empty.put "f" (.method (Body.uses.method .boundSet [] none))
        construct := fun _ => .ok freshMemory } }

/-- A session in which it is registered, with two dispatchers over one project. -/
def countingSession : Session :=
  { host := bareScene.host, coreFile := "", nextId := 3
    default :=
      { registry :=
          { sets := Table.empty.put "n" countingPlugin
            functions := countingPlugin.descriptors.foldl (fun fs d => fs.put d.key d) .empty } }
    projects := Shelf.add {} "main" bareScene.project
    dispatchers :=
      (Table.empty.put "a" { serial := 1, project := 0, registry := .default, separate := none }).put
        "b" { serial := 2, project := 0, registry := .default, separate := none } }

example :
    let f := Request.call { space := "n", function := "f" }
    countingSession.replies [("a", f), ("b", f), ("a", f), ("b", .callAll [])] =
      [("a", .ok (.value (.int 1))), ("b", .ok (.value (.int 1))), ("a", .ok (.value (.int 2))),
        ("b", .ok (.values []))] := rfl

end Session

end BuildScript
