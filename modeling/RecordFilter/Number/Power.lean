set_option autoImplicit false

attribute [default_instance 30000] instPowNat
