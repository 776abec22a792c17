import Containment.Proofs.Session.Retention

namespace Containment

/-! What of the memory can be observed. After any history, a conversion comes to what it comes to
without a memory, or to what a look-alike of the shape comes to. -/

/-- Rules that no validation tells apart. -/
structure Rule.Equivalent (rule other : Rule) : Prop where
  required_eq : rule.isRequired = other.isRequired
  default_eq : rule.default? = other.default?
  alias_eq : rule.alias? = other.alias?
  validate_eq : ∀ value location,
    rule.schema.validate value location = other.schema.validate value location

/-- Failures at one location for one shape, or equivalent rules. -/
inductive SameOutcome : Except Unclaimed Rule → Except Unclaimed Rule → Prop where
  | failed (unclaimed : Unclaimed) : SameOutcome (.error unclaimed) (.error unclaimed)
  | converted {rule other : Rule} (same : Rule.Equivalent rule other) :
      SameOutcome (.ok rule) (.ok other)

theorem Rule.equivalent_of_anonymous {rule other : Rule}
    (same : Rule.anonymous rule = Rule.anonymous other) : Rule.Equivalent rule other := by
  rw [Rule.anonymous, Rule.anonymous, Slot.mk.injEq] at same
  obtain ⟨schemas, defaults, aliases⟩ := same
  refine ⟨?_, defaults, aliases, Schema.validate_eq_of_anonymous schemas⟩
  rw [Slot.isRequired, Slot.isRequired, defaults]

theorem sameOutcome_of_anonymous {outcome other : Except Unclaimed Rule}
    (same : anonymousOutcome outcome = anonymousOutcome other) : SameOutcome outcome other := by
  cases outcome with
  | error unclaimed =>
      cases other with
      | error unclaimed' =>
          cases same
          exact .failed unclaimed
      | ok rule => cases same
  | ok rule =>
      cases other with
      | error unclaimed => cases same
      | ok rule' => exact .converted (Rule.equivalent_of_anonymous (Except.ok.inj same))

namespace Registry

variable {registry : Registry}

end Registry

end Containment
