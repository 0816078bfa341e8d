/-!
The text of the stand-in decoder as a module.
-/

namespace DecoderHost.StandIn

/-- The module text of the stand-in decoder. -/
def source : String :=
  r##";; Stand-in decoder exporting the same C ABI as the real Capstone build.
;;
;; Supports ARM (0), AArch64 (1) and X86 (3) with a one-byte toy encoding:
;;
;;   byte   x86                         arm / aarch64
;;   0x90   nop                         hint #0x90
;;   0xc3   ret                         ret
;;   0x01   add %eax, %ecx  (AT&T)      add w1, w1, w1
;;          add ecx, eax    (Intel)
;;   0x0f   syscall (two bytes)         -
;;   0xcc   traps                       -
;;
;; Anything else stops decoding. Allocation is a bump allocator that resets
;; once every block has been freed; `live_allocations` exposes the count.
;; `cs_option` accepts only the syntax option and records its last call.

(module
    (memory (export "memory") 1)

    (data (i32.const 256) "nop\00")
    (data (i32.const 264) "ret\00")
    (data (i32.const 272) "add\00")
    (data (i32.const 280) "%eax, %ecx\00")
    (data (i32.const 296) "ecx, eax\00")
    (data (i32.const 312) "syscall\00")
    (data (i32.const 320) "hint\00")
    (data (i32.const 328) "#0x90\00")
    (data (i32.const 336) "\00")
    (data (i32.const 344) "w1, w1, w1\00")

    (global $heap (mut i32) (i32.const 4096))
    (global $live (mut i32) (i32.const 0))
    (global $syntax (mut i32) (i32.const 0))
    (global $opened (mut i32) (i32.const 0))
    (global $option_calls (mut i32) (i32.const 0))
    (global $option_type (mut i32) (i32.const 0))
    (global $option_value (mut i32) (i32.const 0))

    (func $malloc (export "malloc") (param $size i32) (result i32)
        (local $block i32)
        (local.set $block (global.get $heap))
        ;; Keep every block 8-byte aligned.
        (global.set $heap
            (i32.and
                (i32.add (i32.add (local.get $block) (local.get $size)) (i32.const 7))
                (i32.const -8)))
        (global.set $live (i32.add (global.get $live) (i32.const 1)))
        (local.get $block))

    (func $free (export "free") (param $block i32)
        (if (i32.eqz (local.get $block)) (then (return)))
        (global.set $live (i32.sub (global.get $live) (i32.const 1)))
        (if (i32.eqz (global.get $live))
            (then (global.set $heap (i32.const 4096)))))

    (func (export "live_allocations") (result i32) (global.get $live))
    (func (export "syntax") (result i32) (global.get $syntax))
    (func (export "opened") (result i32) (global.get $opened))
    (func (export "option_calls") (result i32) (global.get $option_calls))
    (func (export "option_type") (result i32) (global.get $option_type))
    (func (export "option_value") (result i32) (global.get $option_value))

    (func (export "cs_open") (param $arch i32) (param $mode i32) (param $handle_p i32) (result i32)
        (if (i32.eq (local.get $arch) (i32.const 3))
            (then
                ;; x86 needs one of MODE_16, MODE_32 or MODE_64.
                (if (i32.eqz (i32.and (local.get $mode) (i32.const 14)))
                    (then (return (i32.const 5))))))
        (if (i32.and
                (i32.gt_u (local.get $arch) (i32.const 1))
                (i32.ne (local.get $arch) (i32.const 3)))
            (then (return (i32.const 2))))
        (i32.store (local.get $handle_p) (i32.add (local.get $arch) (i32.const 256)))
        (global.set $opened (i32.add (global.get $opened) (i32.const 1)))
        (i32.const 0))

    (func (export "cs_option") (param $handle i32) (param $type i32) (param $value i32) (result i32)
        (global.set $option_calls (i32.add (global.get $option_calls) (i32.const 1)))
        (global.set $option_type (local.get $type))
        (global.set $option_value (local.get $value))
        ;; Only the syntax option is supported.
        (if (i32.ne (local.get $type) (i32.const 1))
            (then (return (i32.const 6))))
        (global.set $syntax (local.get $value))
        (i32.const 0))

    (func (export "cs_malloc") (param $handle i32) (result i32)
        (call $malloc (i32.const 64)))

    (func (export "cs_free") (param $insn i32) (param $count i32)
        (call $free (local.get $insn)))

    (func (export "cs_get_mnemonic") (param $insn i32) (result i32)
        (local.get $insn))

    (func (export "cs_get_op_str") (param $insn i32) (result i32)
        (i32.add (local.get $insn) (i32.const 32)))

    ;; Fill an instruction record: mnemonic at +0, operands at +32.
    (func $emit (param $insn i32) (param $mn i32) (param $mn_len i32) (param $op i32) (param $op_len i32)
        (memory.copy (local.get $insn) (local.get $mn) (local.get $mn_len))
        (memory.copy (i32.add (local.get $insn) (i32.const 32)) (local.get $op) (local.get $op_len)))

    (func (export "cs_disasm_iter")
        (param $handle i32) (param $code_p i32) (param $size_p i32) (param $addr_p i32) (param $insn i32)
        (result i32)
        (local $code i32) (local $size i32) (local $byte i32) (local $len i32)

        (local.set $size (i32.load (local.get $size_p)))
        (if (i32.eqz (local.get $size)) (then (return (i32.const 0))))
        (local.set $code (i32.load (local.get $code_p)))
        (local.set $byte (i32.load8_u (local.get $code)))
        (local.set $len (i32.const 1))

        (block $decoded
            (block $undecodable
                (if (i32.eq (local.get $handle) (i32.const 259))
                    (then
                        (if (i32.eq (local.get $byte) (i32.const 0x90))
                            (then
                                (call $emit (local.get $insn) (i32.const 256) (i32.const 4) (i32.const 336) (i32.const 1))
                                (br $decoded)))
                        (if (i32.eq (local.get $byte) (i32.const 0xc3))
                            (then
                                (call $emit (local.get $insn) (i32.const 264) (i32.const 4) (i32.const 336) (i32.const 1))
                                (br $decoded)))
                        (if (i32.eq (local.get $byte) (i32.const 0x01))
                            (then
                                (if (i32.eq (global.get $syntax) (i32.const 8))
                                    (then
                                        (call $emit (local.get $insn) (i32.const 272) (i32.const 4) (i32.const 280) (i32.const 11)))
                                    (else
                                        (call $emit (local.get $insn) (i32.const 272) (i32.const 4) (i32.const 296) (i32.const 9))))
                                (br $decoded)))
                        (if (i32.eq (local.get $byte) (i32.const 0x0f))
                            (then
                                (br_if $undecodable (i32.lt_u (local.get $size) (i32.const 2)))
                                (local.set $len (i32.const 2))
                                (call $emit (local.get $insn) (i32.const 312) (i32.const 8) (i32.const 336) (i32.const 1))
                                (br $decoded)))
                        (if (i32.eq (local.get $byte) (i32.const 0xcc))
                            (then unreachable))
                        (br $undecodable)))

                (if (i32.eq (local.get $byte) (i32.const 0x90))
                    (then
                        (call $emit (local.get $insn) (i32.const 320) (i32.const 5) (i32.const 328) (i32.const 6))
                        (br $decoded)))
                (if (i32.eq (local.get $byte) (i32.const 0xc3))
                    (then
                        (call $emit (local.get $insn) (i32.const 264) (i32.const 4) (i32.const 336) (i32.const 1))
                        (br $decoded)))
                (if (i32.eq (local.get $byte) (i32.const 0x01))
                    (then
                        (call $emit (local.get $insn) (i32.const 272) (i32.const 4) (i32.const 344) (i32.const 11))
                        (br $decoded))))
            (return (i32.const 0)))

        (i32.store (local.get $code_p) (i32.add (local.get $code) (local.get $len)))
        (i32.store (local.get $size_p) (i32.sub (local.get $size) (local.get $len)))
        (i64.store (local.get $addr_p)
            (i64.add (i64.load (local.get $addr_p)) (i64.extend_i32_u (local.get $len))))
        (i32.const 1))
)
"##

end DecoderHost.StandIn
