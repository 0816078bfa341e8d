/-!
The text of the probe as a module.
-/

namespace DecoderHost.Probe

/-- The module text of the probe. -/
def source : String :=
  r##"(module
    (memory (export "memory") 1 4)
    (data (i32.const 64) "hello\00world\00")
    (global $calls (mut i32) (i32.const 0))
    (global (export "a_global") i32 (i32.const 7))

    (func (export "add") (param i32 i32) (result i32)
        (global.set $calls (i32.add (global.get $calls) (i32.const 1)))
        (i32.add (local.get 0) (local.get 1)))
    (func (export "wide") (param i64) (result i64)
        (i64.add (local.get 0) (i64.const 1)))
    (func (export "negative") (result i32) (i32.const -1))
    (func (export "negative64") (result i64) (i64.const -1))
    (func (export "poke") (param $addr i32) (param $value i32)
        (i32.store8 (local.get $addr) (local.get $value)))
    (func (export "peek") (param $addr i32) (result i32)
        (i32.load8_s (local.get $addr)))
    (func (export "grow") (param $pages i32) (result i32)
        (memory.grow (local.get $pages)))
    (func (export "calls") (result i32) (global.get $calls))
    (func (export "nothing"))
    (func (export "boom") (param i32) (result i32) unreachable)
    (func (export "div") (param i32 i32) (result i32)
        (i32.div_s (local.get 0) (local.get 1)))
    (func $recurse (export "recurse") (param i32) (result i32)
        (i32.add (call $recurse (local.get 0)) (i32.const 1)))
    (func (export "mixed") (param i32 i64 i32) (result i64)
        (i64.add (i64.add (i64.extend_i32_s (local.get 0)) (local.get 1))
                 (i64.extend_i32_u (local.get 2))))
    (func (export "five") (param i32 i32 i32 i32 i32) (result i32)
        (i32.sub (i32.mul (local.get 0) (local.get 1))
                 (i32.add (local.get 2) (i32.mul (local.get 3) (local.get 4)))))
    (func (export "pair") (param i32) (result i32 i64)
        (i32.add (local.get 0) (i32.const 1)) (i64.const -5))
    (func (export "float") (param f32) (result i32) (i32.const 0))
    (func (export "late_float") (param i32 f64) (result i32) (i32.const 0))
    (func (export "float_result") (result f32) (f32.const 1.5))
    (func (export "double_result") (param i32) (result f64)
        (global.set $calls (i32.add (global.get $calls) (i32.const 1)))
        (f64.const -2))
    (func (export "vector") (param v128) (result i32) (i32.const 0))
)
"##

end DecoderHost.Probe
