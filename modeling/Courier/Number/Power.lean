/-!
# Powers

A power of a natural or an integer is that of the core library, whatever other instances are in
scope, so that it means the same in every module.
-/

attribute [instance (20000), default_instance 20000] instPowNat
