/-!
# Powers

A bound such as `2 ^ 64` is the same term in every module, also in those that see
an algebraic hierarchy with a power of its own.
-/

attribute [instance (high + 1), default_instance (high + 1)] instPowNat
