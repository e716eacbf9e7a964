import Renderflow.Graph.Basic

/-!
# Qwen templates

The layouts of the graphs that Qwen jobs start from. Their nodes and inputs stand in key order.
-/

namespace Renderflow.Template.Qwen

/-- Text to image. -/
def txt2img : Layout :=
  [ ("qwen_1", .of "CheckpointLoaderSimple" "Load Qwen Checkpoint"
      [("ckpt_name", .str "qwen_image_fp8_e4m3fn.safetensors")]),
    ("qwen_2", .of "CLIPSetLastLayer" "CLIP Skip -2"
      [("clip", .link ⟨"qwen_lora", 1⟩),
       ("stop_at_clip_layer", .int (-2))]),
    ("qwen_3", .of "CLIPTextEncode" "Positive Prompt (Qwen)"
      [("clip", .link ⟨"qwen_2", 0⟩),
       ("text", .str "POSITIVE PROMPT HERE")]),
    ("qwen_4", .of "CLIPTextEncode" "Negative Prompt (Qwen)"
      [("clip", .link ⟨"qwen_2", 0⟩),
       ("text", .str "NEGATIVE PROMPT HERE")]),
    ("qwen_5", .of "KSampler" "KSampler (Qwen)"
      [("cfg", .float 6.0),
       ("denoise", .float 1.0),
       ("latent_image", .link ⟨"qwen_8", 0⟩),
       ("model", .link ⟨"qwen_sampling", 0⟩),
       ("negative", .link ⟨"qwen_4", 0⟩),
       ("positive", .link ⟨"qwen_3", 0⟩),
       ("sampler_name", .str "euler"),
       ("scheduler", .str "normal"),
       ("seed", .int 12345),
       ("steps", .int 30)]),
    ("qwen_6", .of "VAEDecode" "VAE Decode (Qwen)"
      [("samples", .link ⟨"qwen_5", 0⟩),
       ("vae", .link ⟨"qwen_1", 2⟩)]),
    ("qwen_7", .of "SaveImage" "Save Image (Qwen)"
      [("filename_prefix", .str "qwenbot/GEN"),
       ("images", .link ⟨"qwen_6", 0⟩)]),
    ("qwen_8", .of "BobsLatentNodeAdvanced" "Bobs Latent Optimizer (Qwen)"
      [("aspect_ratio", .str "1:1"),
       ("batch_size", .int 1),
       ("model_type", .str "QWEN"),
       ("mp_size_float", .str "1"),
       ("upscale_by", .float 1.0)]),
    ("qwen_lora", .of "Power Lora Loader (rgthree)" "Power Lora Loader (Qwen)"
      [("PowerLoraLoaderHeaderWidget", .object [("type", .str "PowerLoraLoaderHeaderWidget")]),
       ("clip", .link ⟨"qwen_1", 1⟩),
       ("lora_1", .object [("lora", .str "None"), ("on", .bool false), ("strength", .int 0)]),
       ("lora_2", .object [("lora", .str "None"), ("on", .bool false), ("strength", .int 0)]),
       ("lora_3", .object [("lora", .str "None"), ("on", .bool false), ("strength", .int 0)]),
       ("lora_4", .object [("lora", .str "None"), ("on", .bool false), ("strength", .int 0)]),
       ("lora_5", .object [("lora", .str "None"), ("on", .bool false), ("strength", .int 0)]),
       ("model", .link ⟨"qwen_1", 0⟩),
       ("➕ Add Lora", .str "")]),
    ("qwen_preview", .of "PreviewImage" "Qwen Preview"
      [("images", .link ⟨"qwen_6", 0⟩)]),
    ("qwen_sampling", .of "ModelSamplingAuraFlow" "Model Sampling (Qwen)"
      [("model", .link ⟨"qwen_lora", 0⟩),
       ("shift", .float 3.1)]) ]

/-- Image to image. -/
def img2img : Layout :=
  [ ("qwen_1", .of "CheckpointLoaderSimple" "Load Qwen Checkpoint"
      [("ckpt_name", .str "qwen_image_fp8_e4m3fn.safetensors")]),
    ("qwen_2", .of "CLIPSetLastLayer" "CLIP Skip -2 (Img2Img)"
      [("clip", .link ⟨"qwen_lora", 1⟩),
       ("stop_at_clip_layer", .int (-2))]),
    ("qwen_3", .of "CLIPTextEncode" "Positive Prompt (Qwen Img2Img)"
      [("clip", .link ⟨"qwen_2", 0⟩),
       ("text", .str "POSITIVE PROMPT HERE")]),
    ("qwen_4", .of "CLIPTextEncode" "Negative Prompt (Qwen Img2Img)"
      [("clip", .link ⟨"qwen_2", 0⟩),
       ("text", .str "NEGATIVE PROMPT HERE")]),
    ("qwen_5", .of "KSampler" "KSampler (Qwen Img2Img)"
      [("cfg", .float 6.0),
       ("denoise", .float 0.75),
       ("latent_image", .link ⟨"qwen_i2i_vae_encode", 0⟩),
       ("model", .link ⟨"qwen_sampling", 0⟩),
       ("negative", .link ⟨"qwen_4", 0⟩),
       ("positive", .link ⟨"qwen_3", 0⟩),
       ("sampler_name", .str "euler"),
       ("scheduler", .str "karras"),
       ("seed", .int 12345),
       ("steps", .int 30)]),
    ("qwen_6", .of "VAEDecode" "VAE Decode (Qwen Img2Img)"
      [("samples", .link ⟨"qwen_5", 0⟩),
       ("vae", .link ⟨"qwen_1", 2⟩)]),
    ("qwen_7", .of "SaveImage" "Save Image (Qwen Img2Img)"
      [("filename_prefix", .str "qwenbot/GEN_I2I"),
       ("images", .link ⟨"qwen_6", 0⟩)]),
    ("qwen_i2i_load", .of "LoadImageFromUrlOrPath" "Load Image for Img2Img"
      [("url_or_path", .str "IMAGE_URL_HERE")]),
    ("qwen_i2i_preview", .of "PreviewImage" "Qwen Img2Img Preview"
      [("images", .link ⟨"qwen_6", 0⟩)]),
    ("qwen_i2i_resize", .of "TenosResizeToTargetPixels" "Tenos Resize to ~1M Pixels (Img2Img)"
      [("image", .link ⟨"qwen_i2i_load", 0⟩),
       ("interpolation", .str "bicubic")]),
    ("qwen_i2i_vae_encode", .of "VAEEncode" "VAE Encode for Img2Img"
      [("pixels", .link ⟨"qwen_i2i_resize", 0⟩),
       ("vae", .link ⟨"qwen_1", 2⟩)]),
    ("qwen_lora", .of "Power Lora Loader (rgthree)" "Power Lora Loader (Qwen Img2Img)"
      [("PowerLoraLoaderHeaderWidget", .object [("type", .str "PowerLoraLoaderHeaderWidget")]),
       ("clip", .link ⟨"qwen_1", 1⟩),
       ("lora_1", .object [("lora", .str "None"), ("on", .bool false), ("strength", .int 0)]),
       ("lora_2", .object [("lora", .str "None"), ("on", .bool false), ("strength", .int 0)]),
       ("lora_3", .object [("lora", .str "None"), ("on", .bool false), ("strength", .int 0)]),
       ("lora_4", .object [("lora", .str "None"), ("on", .bool false), ("strength", .int 0)]),
       ("lora_5", .object [("lora", .str "None"), ("on", .bool false), ("strength", .int 0)]),
       ("model", .link ⟨"qwen_1", 0⟩),
       ("➕ Add Lora", .str "")]),
    ("qwen_sampling", .of "ModelSamplingAuraFlow" "Model Sampling (Qwen)"
      [("model", .link ⟨"qwen_lora", 0⟩),
       ("shift", .float 3.1)]) ]

/-- A variation of an image, weak or strong. -/
def variation : Layout :=
  [ ("qwen_1", .of "CheckpointLoaderSimple" "Load Qwen Checkpoint"
      [("ckpt_name", .str "qwen_image_fp8_e4m3fn.safetensors")]),
    ("qwen_lora", .of "Power Lora Loader (rgthree)" "Power Lora Loader (Qwen Variation)"
      [("PowerLoraLoaderHeaderWidget", .object [("type", .str "PowerLoraLoaderHeaderWidget")]),
       ("clip", .link ⟨"qwen_1", 1⟩),
       ("lora_1", .object [("lora", .str "None"), ("on", .bool false), ("strength", .int 0)]),
       ("lora_2", .object [("lora", .str "None"), ("on", .bool false), ("strength", .int 0)]),
       ("lora_3", .object [("lora", .str "None"), ("on", .bool false), ("strength", .int 0)]),
       ("lora_4", .object [("lora", .str "None"), ("on", .bool false), ("strength", .int 0)]),
       ("lora_5", .object [("lora", .str "None"), ("on", .bool false), ("strength", .int 0)]),
       ("model", .link ⟨"qwen_1", 0⟩),
       ("➕ Add Lora", .str "")]),
    ("qwen_var_clip_skip", .of "CLIPSetLastLayer" "CLIP Skip -2"
      [("clip", .link ⟨"qwen_lora", 1⟩),
       ("stop_at_clip_layer", .int (-2))]),
    ("qwen_var_ksampler", .of "KSampler" "KSampler (Qwen Variation)"
      [("cfg", .float 6.0),
       ("denoise", .float 0.7),
       ("latent_image", .link ⟨"qwen_var_vae_encode", 0⟩),
       ("model", .link ⟨"qwen_var_sampling", 0⟩),
       ("negative", .link ⟨"qwen_var_neg_prompt", 0⟩),
       ("positive", .link ⟨"qwen_var_pos_prompt", 0⟩),
       ("sampler_name", .str "euler_ancestral"),
       ("scheduler", .str "karras"),
       ("seed", .int 12345),
       ("steps", .int 30)]),
    ("qwen_var_load", .of "LoadImageFromUrlOrPath" "Load Image for Variation"
      [("url_or_path", .str "IMAGE_URL_HERE")]),
    ("qwen_var_neg_prompt", .of "CLIPTextEncode" "Negative Prompt (Qwen)"
      [("clip", .link ⟨"qwen_var_clip_skip", 0⟩),
       ("text", .str "NEGATIVE PROMPT HERE")]),
    ("qwen_var_pos_prompt", .of "CLIPTextEncode" "Positive Prompt (Qwen)"
      [("clip", .link ⟨"qwen_var_clip_skip", 0⟩),
       ("text", .str "POSITIVE PROMPT HERE")]),
    ("qwen_var_resize", .of "TenosResizeToTargetPixels" "Tenos Resize to ~1M Pixels"
      [("image", .link ⟨"qwen_var_load", 0⟩),
       ("interpolation", .str "bicubic")]),
    ("qwen_var_sampling", .of "ModelSamplingAuraFlow" "Model Sampling (Qwen Variation)"
      [("model", .link ⟨"qwen_lora", 0⟩),
       ("shift", .float 3.1)]),
    ("qwen_var_save_image", .of "SaveImage" "Save Image (Qwen Variation)"
      [("filename_prefix", .str "qwenbot/VAR"),
       ("images", .link ⟨"qwen_var_vae_decode", 0⟩)]),
    ("qwen_var_vae_decode", .of "VAEDecode" "VAE Decode (Qwen)"
      [("samples", .link ⟨"qwen_var_ksampler", 0⟩),
       ("vae", .link ⟨"qwen_1", 2⟩)]),
    ("qwen_var_vae_encode", .of "VAEEncode" "VAE Encode for Variation"
      [("pixels", .link ⟨"qwen_var_resize", 0⟩),
       ("vae", .link ⟨"qwen_1", 2⟩)]) ]

/-- A tiled upscale of an image. -/
def upscale : Layout :=
  [ ("qwen_1", .of "CheckpointLoaderSimple" "Load Qwen Checkpoint"
      [("ckpt_name", .str "qwen_image_fp8_e4m3fn.safetensors")]),
    ("qwen_lora", .of "Power Lora Loader (rgthree)" "Power Lora Loader (Qwen Upscale)"
      [("PowerLoraLoaderHeaderWidget", .object [("type", .str "PowerLoraLoaderHeaderWidget")]),
       ("clip", .link ⟨"qwen_1", 1⟩),
       ("lora_1", .object [("lora", .str "None"), ("on", .bool false), ("strength", .int 0)]),
       ("lora_2", .object [("lora", .str "None"), ("on", .bool false), ("strength", .int 0)]),
       ("lora_3", .object [("lora", .str "None"), ("on", .bool false), ("strength", .int 0)]),
       ("lora_4", .object [("lora", .str "None"), ("on", .bool false), ("strength", .int 0)]),
       ("lora_5", .object [("lora", .str "None"), ("on", .bool false), ("strength", .int 0)]),
       ("model", .link ⟨"qwen_1", 0⟩),
       ("➕ Add Lora", .str "")]),
    ("qwen_up_helper_latent", .of "BobsLatentNodeAdvanced" "Bobs Upscale Param Calculator (Qwen)"
      [("aspect_ratio", .str "1:1"),
       ("batch_size", .int 1),
       ("model_type", .str "QWEN"),
       ("mp_size_float", .str "1"),
       ("upscale_by", .float 1.85)]),
    ("qwen_up_load", .of "LoadImageFromUrlOrPath" "Load Image for Upscaling"
      [("url_or_path", .str "IMAGE_URL_HERE")]),
    ("qwen_up_model_loader", .of "UpscaleModelLoader" "Load Upscale Model"
      [("model_name", .str "4x-UltraSharp.pth")]),
    ("qwen_up_sampling", .of "ModelSamplingAuraFlow" "Model Sampling (Qwen Upscale)"
      [("model", .link ⟨"qwen_lora", 0⟩),
       ("shift", .float 3.1)]),
    ("qwen_up_save", .of "SaveImage" "Save Upscaled Image (Qwen)"
      [("filename_prefix", .str "qwenbot/UPSCALES"),
       ("images", .link ⟨"qwen_up_ultimate", 0⟩)]),
    ("qwen_up_ultimate", .of "UltimateSDUpscale" "Ultimate SD Upscale (Qwen)"
      [("cfg", .float 5.0),
       ("denoise", .float 0.15),
       ("force_uniform_tiles", .bool true),
       ("image", .link ⟨"qwen_up_load", 0⟩),
       ("mask_blur", .int 16),
       ("mode_type", .str "Linear"),
       ("model", .link ⟨"qwen_up_sampling", 0⟩),
       ("negative", .link ⟨"qwen_upscale_neg_prompt", 0⟩),
       ("positive", .link ⟨"qwen_upscale_pos_prompt", 0⟩),
       ("sampler_name", .str "euler"),
       ("scheduler", .str "karras"),
       ("seam_fix_denoise", .float 0.4),
       ("seam_fix_mask_blur", .int 8),
       ("seam_fix_mode", .str "Half Tile + Intersections"),
       ("seam_fix_padding", .int 32),
       ("seam_fix_width", .int 64),
       ("seed", .int 12345),
       ("steps", .int 16),
       ("tile_height", .link ⟨"qwen_up_helper_latent", 2⟩),
       ("tile_padding", .int 32),
       ("tile_width", .link ⟨"qwen_up_helper_latent", 1⟩),
       ("tiled_decode", .bool true),
       ("upscale_by", .link ⟨"qwen_up_helper_latent", 3⟩),
       ("upscale_model", .link ⟨"qwen_up_model_loader", 0⟩),
       ("vae", .link ⟨"qwen_1", 2⟩)]),
    ("qwen_upscale_clip_skip", .of "CLIPSetLastLayer" "CLIP Skip -2 (Upscale)"
      [("clip", .link ⟨"qwen_lora", 1⟩),
       ("stop_at_clip_layer", .int (-2))]),
    ("qwen_upscale_neg_prompt", .of "CLIPTextEncode" "Upscale Negative Prompt (Qwen)"
      [("clip", .link ⟨"qwen_upscale_clip_skip", 0⟩),
       ("text", .str "UPSCALE NEGATIVE HERE")]),
    ("qwen_upscale_pos_prompt", .of "CLIPTextEncode" "Upscale Positive Prompt (Qwen)"
      [("clip", .link ⟨"qwen_upscale_clip_skip", 0⟩),
       ("text", .str "UPSCALE PROMPT HERE")]) ]

/-- An edit of one reference image. -/
def edit : Layout :=
  [ ("qwen_1", .of "CheckpointLoaderSimple" "Load Qwen Checkpoint"
      [("ckpt_name", .str "qwen_image_fp8_e4m3fn.safetensors")]),
    ("qwen_2", .of "CLIPSetLastLayer" "CLIP Skip -2 (Edit)"
      [("clip", .link ⟨"qwen_lora", 1⟩),
       ("stop_at_clip_layer", .int (-2))]),
    ("qwen_3", .of "CLIPTextEncode" "Positive Prompt (Qwen Edit)"
      [("clip", .link ⟨"qwen_2", 0⟩),
       ("text", .str "POSITIVE PROMPT HERE")]),
    ("qwen_4", .of "CLIPTextEncode" "Negative Prompt (Qwen Edit)"
      [("clip", .link ⟨"qwen_2", 0⟩),
       ("text", .str "NEGATIVE PROMPT HERE")]),
    ("qwen_5", .of "KSampler" "KSampler (Qwen Edit)"
      [("cfg", .float 6.0),
       ("denoise", .float 0.75),
       ("latent_image", .link ⟨"qwen_i2i_vae_encode", 0⟩),
       ("model", .link ⟨"qwen_sampling", 0⟩),
       ("negative", .link ⟨"qwen_4", 0⟩),
       ("positive", .link ⟨"qwen_3", 0⟩),
       ("sampler_name", .str "euler"),
       ("scheduler", .str "karras"),
       ("seed", .int 12345),
       ("steps", .int 30)]),
    ("qwen_6", .of "VAEDecode" "VAE Decode (Qwen Edit)"
      [("samples", .link ⟨"qwen_5", 0⟩),
       ("vae", .link ⟨"qwen_1", 2⟩)]),
    ("qwen_7", .of "SaveImage" "Save Image (Qwen Edit)"
      [("filename_prefix", .str "qwenbot/EDIT"),
       ("images", .link ⟨"qwen_6", 0⟩)]),
    ("qwen_i2i_load", .of "LoadImageFromUrlOrPath" "Load Image for Edit"
      [("url_or_path", .str "IMAGE_URL_HERE")]),
    ("qwen_i2i_resize", .of "TenosResizeToTargetPixels" "Tenos Resize to ~1M Pixels (Edit)"
      [("image", .link ⟨"qwen_i2i_load", 0⟩),
       ("interpolation", .str "bicubic")]),
    ("qwen_i2i_vae_encode", .of "VAEEncode" "VAE Encode for Edit"
      [("pixels", .link ⟨"qwen_i2i_resize", 0⟩),
       ("vae", .link ⟨"qwen_1", 2⟩)]),
    ("qwen_lora", .of "Power Lora Loader (rgthree)" "Power Lora Loader (Qwen Edit)"
      [("PowerLoraLoaderHeaderWidget", .object [("type", .str "PowerLoraLoaderHeaderWidget")]),
       ("clip", .link ⟨"qwen_1", 1⟩),
       ("lora_1", .object [("lora", .str "None"), ("on", .bool false), ("strength", .int 0)]),
       ("lora_2", .object [("lora", .str "None"), ("on", .bool false), ("strength", .int 0)]),
       ("lora_3", .object [("lora", .str "None"), ("on", .bool false), ("strength", .int 0)]),
       ("lora_4", .object [("lora", .str "None"), ("on", .bool false), ("strength", .int 0)]),
       ("lora_5", .object [("lora", .str "None"), ("on", .bool false), ("strength", .int 0)]),
       ("model", .link ⟨"qwen_1", 0⟩),
       ("➕ Add Lora", .str "")]),
    ("qwen_sampling", .of "ModelSamplingAuraFlow" "Model Sampling (Qwen)"
      [("model", .link ⟨"qwen_lora", 0⟩),
       ("shift", .float 3.1)]) ]

end Renderflow.Template.Qwen
