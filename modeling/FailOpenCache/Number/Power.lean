/-!
# Powers

Powers of naturals and integers are those of the core language everywhere, also where an
algebraic hierarchy is at hand that would read them as powers in a monoid. A word's range and a
number's scale are thus the same term in every module, whatever else the module imports.
-/

attribute [instance (high), default_instance (high + 1)] instPowNat
