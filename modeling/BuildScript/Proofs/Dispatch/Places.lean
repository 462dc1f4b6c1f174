import BuildScript.Dispatch
import BuildScript.Proofs.Registry.Plugins

/-!
How many arguments a method takes. The check of a declaration counts all parameters behind what a method
is called on, and a call fills them by their place. Main statement: `refusal?_eq_none_iff`, that a method
takes as many arguments as were counted exactly if it `Fits`.
-/

namespace BuildScript

namespace Method

/-- A call by place can fill the parameters: none is by name only, unless it may go without, and where no
parameter takes all that are left, each takes one, and one is there for the set. What is no function of
the language takes what it likes. -/
def Fits (m : Method) : Prop :=
  m.foreign = true ∨ (∀ q ∈ m.written, q.kind = .keywordOnly → q.optional = true) ∧
    ((∃ q ∈ m.written, q.kind = .variadic) ∨
      (∀ q ∈ m.written, q.kind = .positional) ∧ (m.receiver = .boundSet → m.written ≠ []))

variable {m : Method} {ps : List Parameter}

theorem own_length_le (m : Method) : m.own.length ≤ m.receiver.count := by
  unfold own Receiver.count
  cases m.receiver with
  | boundSet => exact List.length_take_le 1 m.written
  | ownClass => exact Nat.le_trans (List.length_filter_le ..) (List.length_take_le 1 m.written)
  | nothing => exact Nat.le_refl 0

/-- Where every parameter takes one argument by its place, one takes what the method is called on. -/
theorem own_length_eq (h : m.taken = .ok ps) (hplaced : ∀ q ∈ m.written, q.kind = .positional)
    (hne : m.receiver = .boundSet → m.written ≠ []) : m.own.length = m.receiver.count := by
  have htake : m.written ≠ [] → (m.written.take 1).length = 1 := fun hne => by
    rw [List.length_take]
    have := List.length_pos_iff.mpr hne
    omega
  unfold own Receiver.count
  cases hr : m.receiver with
  | boundSet => exact htake (hne hr)
  | nothing => rfl
  | ownClass =>
    have hall : (m.written.take 1).filter (·.kind = .positional) = m.written.take 1 :=
      List.filter_eq_self.mpr fun q hq => decide_eq_true (hplaced q (List.mem_of_mem_take hq))
    show ((m.written.take 1).filter _).length = 1
    rw [hall]
    refine htake fun hnil => ?_
    unfold taken listed at h
    cases hu : m.untold <;> simp [hr, hu, hnil, withoutClass] at h

theorem places_eq_written_iff (m : Method) :
    m.written.length ≤ m.places.length ↔ ∀ q ∈ m.written, q.kind = .positional := by
  have hle : m.places.length ≤ m.written.length := List.length_filter_le ..
  have heq : m.places.length = m.written.length ↔ ∀ q ∈ m.written, q.kind = .positional := by
    simp only [places, List.length_filter_eq_length_iff, decide_eq_true_eq]
  rw [← heq]
  omega

/-- A variadic parameter is none that takes one argument by its place. -/
theorem places_length_lt {q : Parameter} (hq : q ∈ m.written) (hkind : q.kind = .variadic) :
    m.places.length < m.written.length := by
  have hnot : ¬ ∀ q ∈ m.written, q.kind = .positional := fun h => nomatch hkind.symm.trans (h q hq)
  rw [← m.places_eq_written_iff] at hnot
  omega

theorem named_eq_nil_iff (m : Method) :
    m.named = [] ↔ ∀ q ∈ m.written, q.kind = .keywordOnly → q.optional = true := by
  simp [named, List.filter_eq_nil_iff]

/-- A method refuses a number of arguments that leaves some without a place, or a parameter without one. -/
theorem refusal?_eq_none_cases (m : Method) (name : String) (given : Nat) :
    m.refusal? name given = none ↔
      m.foreign = true ∨
        ((∃ q ∈ m.written, q.kind = .variadic) ∨ given + m.receiver.count ≤ m.places.length) ∧
          (m.places.drop (given + m.receiver.count)).filter (!·.optional) = [] ∧ m.named = [] := by
  have hexcess : ((∃ q ∈ m.written, q.kind = .variadic) ∨ given + m.receiver.count ≤ m.places.length) ↔
      ¬ (m.places.length < given + m.receiver.count ∧ m.written.all (·.kind ≠ .variadic)) := by
    simp only [List.all_eq_true, decide_eq_true_eq, ne_eq, not_and, not_forall, not_not, exists_prop]
    rw [or_iff_not_imp_right, Nat.not_le]
  rw [hexcess]
  unfold refusal?
  cases m.foreign with
  | true => simp
  | false =>
    simp only [Bool.false_eq_true, if_false, false_or]
    split_ifs with hexcess hmissing hnamed
    · exact iff_of_false nofun fun h => h.1 hexcess
    · exact iff_of_false nofun fun h => hmissing h.2.1
    · exact iff_of_false nofun fun h => hnamed h.2.2
    · exact iff_of_true rfl ⟨hexcess, not_not.mp hmissing, not_not.mp hnamed⟩

/-- A method takes as many arguments as it has parameters for them exactly if a call by place can fill
these. -/
theorem refusal?_eq_none_iff (h : m.taken = .ok ps) {given : Nat} (hlength : ps.length = given)
    (name : String) : m.refusal? name given = none ↔ m.Fits := by
  have hwritten : m.written.length = m.own.length + given := by
    rw [written_eq_own_append h, List.length_append, hlength]
  have hown := m.own_length_le
  rw [refusal?_eq_none_cases, Fits, ← m.named_eq_nil_iff]
  refine or_congr_right ⟨fun hall => ⟨hall.2.2, ?_⟩, fun hall => ?_⟩
  · refine hall.1.imp_right fun hle => ?_
    have hplaces : m.written.length ≤ m.places.length := by omega
    refine ⟨m.places_eq_written_iff.mp hplaces, fun hreceiver hnil => ?_⟩
    have hcount : m.receiver.count = 1 := by rw [hreceiver]; rfl
    have hnone : m.places = [] := by rw [places, hnil]; rfl
    rw [hnone, hcount, List.length_nil] at hle
    omega
  · have hdrop : m.places.length ≤ given + m.receiver.count →
        (m.places.drop (given + m.receiver.count)).filter (!·.optional) = [] := fun hle => by
      rw [List.drop_eq_nil_of_le hle, List.filter_nil]
    obtain ⟨hnamed, ⟨q, hq, hkind⟩ | ⟨hplaced, hne⟩⟩ := hall
    · have hlt := places_length_lt hq hkind
      exact ⟨.inl ⟨q, hq, hkind⟩, hdrop (by omega), hnamed⟩
    · have hcount := own_length_eq h hplaced hne
      have hle := m.places_eq_written_iff.mpr hplaced
      have hge : m.places.length ≤ m.written.length := List.length_filter_le ..
      exact ⟨.inr (by omega), hdrop (by omega), hnamed⟩

end Method

end BuildScript
